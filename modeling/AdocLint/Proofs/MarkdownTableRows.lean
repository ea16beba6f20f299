import AdocLint.Proofs.VerbatimBlocks

/-! The Markdown table rule reports the free separators and then the free rows that reach one,
outside verbatim blocks and AsciiDoc tables. -/

namespace AdocLint.MarkdownTables

def skipped (lines : List String) (j : Nat) : Bool :=
  let marked := lines.zip (Verbatim.blockMask lines)
  let line := marked.getD j ("", true)
  line.2 || isTableDelimiter line.1 ||
    (marked.take j).countP (fun p => !p.2 && isTableDelimiter p.1) % 2 == 1

def tableFlags (inTable : Bool) : List (String × Bool) → List Bool
  | [] => []
  | (s, m) :: rest =>
    if m then true :: tableFlags inTable rest
    else if isTableDelimiter s then true :: tableFlags (!inTable) rest
    else inTable :: tableFlags inTable rest

theorem passedFrom_eq_tableFlags (opened : Option String) (inTable : Bool) (lines : List String) :
    passedFrom opened inTable lines =
      tableFlags inTable (lines.zip (Verbatim.walkMask opened lines)) := by
  induction lines generalizing opened inTable with
  | nil => rfl
  | cons s rest ih =>
    by_cases hd : Verbatim.isDelimiter (Text.trim s) = true
    · cases opened <;> simp [passedFrom, Verbatim.walkMask, tableFlags, hd, ih]
    · cases opened with
      | none =>
        by_cases ht : isTableDelimiter s = true
        · simp [passedFrom, Verbatim.walkMask, tableFlags, hd, ht, ih]
        · simp [passedFrom, Verbatim.walkMask, tableFlags, hd, ht, ih]
      | some d => simp [passedFrom, Verbatim.walkMask, tableFlags, hd, ih]

theorem odd_succ (c : Nat) : ((c + 1) % 2 == 1) = !(c % 2 == 1) := by
  rcases Nat.mod_two_eq_zero_or_one c with h | h <;> simp [Nat.add_mod, h]

theorem tableFlags_getD (inTable : Bool) (xs : List (String × Bool)) (j : Nat) :
    (tableFlags inTable xs).getD j true =
      ((xs.getD j ("", true)).2 || isTableDelimiter (xs.getD j ("", true)).1 ||
        (inTable ^^ ((xs.take j).countP (fun p => !p.2 && isTableDelimiter p.1) % 2 == 1))) := by
  induction xs generalizing inTable j with
  | nil => simp [tableFlags]
  | cons x rest ih =>
    obtain ⟨s, m⟩ := x
    cases j with
    | zero => by_cases ht : isTableDelimiter s = true <;> cases m <;> simp [tableFlags, ht]
    | succ j =>
      -- an unmasked `|===` line flips the table state and adds one to the count
      by_cases ht : isTableDelimiter s = true <;> cases m <;>
        simp only [tableFlags, ht, List.getD_cons_succ, List.take_succ_cons, List.countP_cons, ih,
          if_true, if_false, Bool.false_eq_true, Bool.not_false, Bool.not_true, Bool.and_false,
          Bool.and_true, Nat.add_zero, odd_succ, Bool.not_xor, Bool.xor_not]

theorem passedFrom_getD (lines : List String) (j : Nat) :
    (passedFrom none false lines).getD j true = skipped lines j := by
  rw [passedFrom_eq_tableFlags, Verbatim.walkMask_none, tableFlags_getD, Bool.false_xor]
  rfl

theorem getD_toArray {α : Type} (xs : List α) (j : Nat) (d : α) : xs.toArray.getD j d = xs.getD j d := by
  simp [List.getD_eq_getElem?_getD]

/-! The expansion around a separator, and the lines it marks. -/

theorem mem_upFrom {ok : Nat → Bool} {j : Nat} : ∀ {k : Nat},
    j ∈ upFrom ok k ↔ j < k ∧ ∀ m, j ≤ m → m < k → ok m = true
  | 0 => by simp [upFrom]
  | k + 1 => by
    by_cases hk : ok k = true
    · rw [upFrom, if_pos hk, List.mem_cons, mem_upFrom]
      constructor
      · rintro (rfl | ⟨hj, hm⟩)
        · refine ⟨by omega, fun m h1 h2 => ?_⟩
          obtain rfl : m = j := by omega
          exact hk
        · refine ⟨by omega, fun m h1 h2 => ?_⟩
          rcases Nat.lt_or_ge m k with h | h
          · exact hm m h1 h
          · obtain rfl : m = k := by omega
            exact hk
      · rintro ⟨hj, hm⟩
        rcases Nat.lt_or_ge j k with h | h
        · exact .inr ⟨h, fun m h1 h2 => hm m h1 (by omega)⟩
        · exact .inl (by omega)
    · rw [upFrom, if_neg hk]
      simp only [List.not_mem_nil, false_iff, not_and]
      intro hj hm
      exact hk (hm k (by omega) (by omega))

theorem mem_downFrom {ok : Nat → Bool} {j : Nat} : ∀ {a fuel : Nat},
    j ∈ downFrom ok a fuel ↔ a ≤ j ∧ j < a + fuel ∧ ∀ m, a ≤ m → m ≤ j → ok m = true
  | _, 0 => by
    simp only [downFrom, List.not_mem_nil, false_iff, not_and]
    omega
  | a, fuel + 1 => by
    by_cases ha : ok a = true
    · rw [downFrom, if_pos ha, List.mem_cons, mem_downFrom]
      constructor
      · rintro (rfl | ⟨h1, h2, hm⟩)
        · refine ⟨(Nat.le_refl _), by omega, fun m h1 h2 => ?_⟩
          obtain rfl : m = j := by omega
          exact ha
        · refine ⟨by omega, by omega, fun m h3 h4 => ?_⟩
          rcases Nat.eq_or_lt_of_le h3 with rfl | h
          · exact ha
          · exact hm m h h4
      · rintro ⟨h1, h2, hm⟩
        rcases Nat.eq_or_lt_of_le h1 with rfl | h
        · exact .inl rfl
        · exact .inr ⟨h, by omega, fun m h3 h4 => hm m (by omega) h4⟩
    · rw [downFrom, if_neg ha]
      simp only [List.not_mem_nil, false_iff, not_and]
      intro h1 _ hm
      exact ha (hm a (Nat.le_refl _) h1)

theorem mem_expansion_iff {ok : Nat → Bool} {n s j : Nat} (hsn : s < n) (hjs : j ≠ s) :
    j ∈ s :: upFrom ok s ++ downFrom ok (s + 1) (n - (s + 1)) ↔
      j < n ∧ ok j = true ∧ ∀ m, (j < m ∧ m < s ∨ s < m ∧ m < j) → ok m = true := by
  simp only [List.mem_cons, List.mem_append, mem_upFrom, mem_downFrom, hjs, false_or]
  constructor
  · rintro (⟨h, hm⟩ | ⟨h1, h2, hm⟩)
    · refine ⟨by omega, hm j (Nat.le_refl _) h, fun m hm' => hm m (by omega) (by omega)⟩
    · refine ⟨by omega, hm j h1 (Nat.le_refl _), fun m hm' => hm m (by omega) (by omega)⟩
  · rintro ⟨hjn, hok, hm⟩
    rcases Nat.lt_or_gt_of_ne hjs with h | h
    · refine .inl ⟨h, fun m h1 h2 => ?_⟩
      rcases Nat.eq_or_lt_of_le h1 with rfl | h1
      · exact hok
      · exact hm m (.inl ⟨h1, h2⟩)
    · refine .inr ⟨h, by omega, fun m h1 h2 => ?_⟩
      rcases Nat.eq_or_lt_of_le h2 with rfl | h2
      · exact hok
      · exact hm m (.inr ⟨by omega, h2⟩)

theorem foldl_setIfInBounds_getD (xs : List Nat) (acc : Array Bool) (j : Nat) :
    (xs.foldl (fun a k => a.setIfInBounds k true) acc).getD j false =
      (acc.getD j false || (decide (j < acc.size) && decide (j ∈ xs))) := by
  induction xs generalizing acc with
  | nil => simp
  | cons k xs ih =>
    rw [List.foldl_cons, ih, Array.size_setIfInBounds]
    by_cases hk : k = j
    · subst hk
      by_cases hj : k < acc.size <;> simp [hj]
    · simp [hk, Ne.symm hk]

theorem flagged_getD (n : Nat) (seps : List Nat) (expansion : Nat → List Nat) (j : Nat) :
    (seps.foldl (fun acc i => (expansion i).foldl (fun a k => a.setIfInBounds k true) acc)
        (Array.replicate n false)).getD j false =
      (decide (j < n) && decide (∃ s ∈ seps, j ∈ expansion s)) := by
  rw [← List.foldl_flatMap, foldl_setIfInBounds_getD]
  by_cases hj : j < n <;> simp [hj]

/-! The rule's findings, read through the skip set. -/

def separators (lines : List String) : List Nat :=
  (List.range lines.length).filter fun i => !skipped lines i && isSeparator (lines.getD i "")

def rowFree (lines : List String) (j : Nat) : Bool :=
  !skipped lines j && isRow (lines.getD j "")

def expansion (lines : List String) (i : Nat) : List Nat :=
  i :: upFrom (rowFree lines) i ++ downFrom (rowFree lines) (i + 1) (lines.length - (i + 1))

def tableFinding (sev : Severity) (lines : List String) (m : String) (i : Nat) : Finding :=
  Finding.atLine "FMT005" sev (i + 1) m (.str (lines.getD i ""))

theorem findings_eq (sev : Severity) (lines : List String) :
    findings sev lines =
      (separators lines).map (tableFinding sev lines
          "Markdown table separator detected. Use AsciiDoc table syntax (|===) instead") ++
        ((List.range lines.length).filter fun j =>
            decide (∃ s ∈ separators lines, j ∈ expansion lines s) &&
              !isSeparator (lines.getD j "")).map
          (tableFinding sev lines "Markdown table row detected. Use AsciiDoc table syntax (|===) instead") := by
  simp only [findings, getD_toArray, passedFrom_getD, List.size_toArray, flagged_getD]
  congr 2
  apply List.filter_congr
  intro j hj
  rw [List.mem_range] at hj
  simp only [hj, decide_true, Bool.true_and]
  rfl

theorem mem_separators {lines : List String} {s : Nat} :
    s ∈ separators lines ↔
      s < lines.length ∧ skipped lines s = false ∧ isSeparator (lines.getD s "") = true := by
  simp [separators]

theorem ne_of_isSeparator {lines : List String} {j s : Nat}
    (hj : isSeparator (lines.getD j "") = false) (hs : isSeparator (lines.getD s "") = true) :
    j ≠ s := by
  rintro rfl
  rw [hs] at hj
  cases hj

theorem marked_iff {lines : List String} {j : Nat} (hj : isSeparator (lines.getD j "") = false) :
    (∃ s ∈ separators lines, j ∈ expansion lines s) ↔
      j < lines.length ∧ skipped lines j = false ∧ isRow (lines.getD j "") = true ∧
        ∃ s < lines.length, skipped lines s = false ∧ isSeparator (lines.getD s "") = true ∧
          ∀ m, (j < m ∧ m < s ∨ s < m ∧ m < j) →
            skipped lines m = false ∧ isRow (lines.getD m "") = true := by
  have hfree : ∀ m, rowFree lines m = true ↔ skipped lines m = false ∧ isRow (lines.getD m "") = true := by
    intro m
    simp [rowFree]
  constructor
  · rintro ⟨s, hs, hjs⟩
    obtain ⟨hsn, hsk, hss⟩ := mem_separators.1 hs
    obtain ⟨hjn, hok, hm⟩ := (mem_expansion_iff hsn (ne_of_isSeparator hj hss)).1 hjs
    exact ⟨hjn, ((hfree j).1 hok).1, ((hfree j).1 hok).2, s, hsn, hsk, hss,
      fun m hm' => (hfree m).1 (hm m hm')⟩
  · rintro ⟨hjn, hk, hrow, s, hsn, hsk, hss, hm⟩
    refine ⟨s, mem_separators.2 ⟨hsn, hsk, hss⟩,
      (mem_expansion_iff hsn (ne_of_isSeparator hj hss)).2 ⟨hjn, ?_, ?_⟩⟩
    · exact (hfree j).2 ⟨hk, hrow⟩
    · exact fun m hm' => (hfree m).2 (hm m hm')

theorem nodup_lines {F G : Nat → Finding} {xs ys : List Nat}
    (hF : ∀ i, (F i).position.map (·.line) = some ((i + 1 : Nat) : Int))
    (hG : ∀ i, (G i).position.map (·.line) = some ((i + 1 : Nat) : Int))
    (hxs : xs.Pairwise (· < ·)) (hys : ys.Pairwise (· < ·)) (hd : ∀ i ∈ xs, i ∉ ys) :
    ((xs.map F ++ ys.map G).map fun f => f.position.map (·.line)).Nodup := by
  have hlt : ∀ {i j : Nat}, i < j → some ((i + 1 : Nat) : Int) ≠ some ((j + 1 : Nat) : Int) := by
    intro i j h he
    simp only [Option.some.injEq, Int.natCast_inj] at he
    omega
  rw [List.map_append, List.map_map, List.map_map, List.Nodup, List.pairwise_append,
    List.pairwise_map, List.pairwise_map]
  refine ⟨hxs.imp fun h => ?_, hys.imp fun h => ?_, ?_⟩
  · simp only [Function.comp_apply, hF]
    exact hlt h
  · simp only [Function.comp_apply, hG]
    exact hlt h
  · simp only [List.mem_map, Function.comp_apply, hF, hG]
    rintro _ ⟨i, hi, rfl⟩ _ ⟨j, hj, rfl⟩ he
    simp only [Option.some.injEq, Int.natCast_inj, Nat.add_right_cancel_iff] at he
    subst he
    exact hd i hi hj

theorem findings_separators_then_rows (sev : Severity) (lines : List String) :
    ∃ rows : List Nat,
      findings sev lines =
        ((List.range lines.length).filter
            fun i => !skipped lines i && isSeparator (lines.getD i "")).map
          (fun i => Finding.atLine "FMT005" sev (i + 1)
            "Markdown table separator detected. Use AsciiDoc table syntax (|===) instead"
            (.str (lines.getD i ""))) ++
        rows.map (fun j => Finding.atLine "FMT005" sev (j + 1)
            "Markdown table row detected. Use AsciiDoc table syntax (|===) instead"
            (.str (lines.getD j ""))) ∧
      rows.Pairwise (· < ·) ∧
      (∀ j, j ∈ rows ↔ j < lines.length ∧ skipped lines j = false ∧
        isSeparator (lines.getD j "") = false ∧ isRow (lines.getD j "") = true ∧
        ∃ s < lines.length, skipped lines s = false ∧ isSeparator (lines.getD s "") = true ∧
          ∀ m, (j < m ∧ m < s ∨ s < m ∧ m < j) →
            skipped lines m = false ∧ isRow (lines.getD m "") = true) ∧
      ((findings sev lines).map fun f => f.position.map (·.line)).Nodup ∧
      ∀ f ∈ findings sev lines, ∃ i, f.position.map (·.line) = some ((i + 1 : Nat) : Int) ∧
        skipped lines i = false := by
  let rows := (List.range lines.length).filter fun j =>
    decide (∃ s ∈ separators lines, j ∈ expansion lines s) && !isSeparator (lines.getD j "")
  have hrows : ∀ j, j ∈ rows ↔ j < lines.length ∧ skipped lines j = false ∧
      isSeparator (lines.getD j "") = false ∧ isRow (lines.getD j "") = true ∧
      ∃ s < lines.length, skipped lines s = false ∧ isSeparator (lines.getD s "") = true ∧
        ∀ m, (j < m ∧ m < s ∨ s < m ∧ m < j) →
          skipped lines m = false ∧ isRow (lines.getD m "") = true := by
    intro j
    simp only [rows, List.mem_filter, List.mem_range, Bool.and_eq_true, decide_eq_true_eq,
      Bool.not_eq_true']
    by_cases hj : isSeparator (lines.getD j "") = false
    · rw [marked_iff hj]
      constructor
      · rintro ⟨-, ⟨hjn, hk, hrow, rest⟩, -⟩
        exact ⟨hjn, hk, hj, hrow, rest⟩
      · rintro ⟨hjn, hk, -, hrow, rest⟩
        exact ⟨hjn, ⟨hjn, hk, hrow, rest⟩, hj⟩
    · have hj' : isSeparator (lines.getD j "") = true := by simpa using hj
      simp only [hj', Bool.true_eq_false, and_false, false_and, iff_self]
  have hsep : ∀ i ∈ separators lines, i ∉ rows := by
    intro i hi hr
    exact ne_of_isSeparator ((hrows i).1 hr).2.2.1 (mem_separators.1 hi).2.2 rfl
  refine ⟨rows, findings_eq sev lines, List.pairwise_lt_range.filter _, hrows, ?_, ?_⟩
  · rw [findings_eq]
    exact nodup_lines (fun _ => rfl) (fun _ => rfl) (List.pairwise_lt_range.filter _)
      (List.pairwise_lt_range.filter _) hsep
  · rw [findings_eq]
    intro f hf
    rcases List.mem_append.1 hf with hf | hf
    · obtain ⟨i, hi, rfl⟩ := List.mem_map.1 hf
      exact ⟨i, rfl, (mem_separators.1 hi).2.1⟩
    · obtain ⟨j, hj, rfl⟩ := List.mem_map.1 hf
      exact ⟨j, rfl, ((hrows j).1 hj).2.1⟩

/-- An enabled Markdown table checker reports each free separator, in line order, and then each
free row that is not a separator and reaches a free separator through free rows, in line order;
no line is reported twice and no skipped line is reported. -/
theorem check_separators_then_rows {c : Checker} (hr : c.rule = .markdownTable)
    (he : c.enabled = true) (isFile : String → Bool) (lines : List String) :
    ∃ (rows : List Nat) (fs : List Finding),
      (c.check isFile (.entries (lines.map .line))).1 = .ok fs ∧
      fs = ((List.range lines.length).filter
            fun i => !skipped lines i && isSeparator (lines.getD i "")).map
          (fun i => Finding.atLine "FMT005" c.severity (i + 1)
            "Markdown table separator detected. Use AsciiDoc table syntax (|===) instead"
            (.str (lines.getD i ""))) ++
        rows.map (fun j => Finding.atLine "FMT005" c.severity (j + 1)
            "Markdown table row detected. Use AsciiDoc table syntax (|===) instead"
            (.str (lines.getD j ""))) ∧
      rows.Pairwise (· < ·) ∧
      (∀ j, j ∈ rows ↔ j < lines.length ∧ skipped lines j = false ∧
        isSeparator (lines.getD j "") = false ∧ isRow (lines.getD j "") = true ∧
        ∃ s < lines.length, skipped lines s = false ∧ isSeparator (lines.getD s "") = true ∧
          ∀ m, (j < m ∧ m < s ∨ s < m ∧ m < j) →
            skipped lines m = false ∧ isRow (lines.getD m "") = true) ∧
      (fs.map fun f => f.position.map (·.line)).Nodup ∧
      ∀ f ∈ fs, ∃ i, f.position.map (·.line) = some ((i + 1 : Nat) : Int) ∧
        skipped lines i = false := by
  have hcheck : (c.check isFile (.entries (lines.map .line))).1 = .ok (findings c.severity lines) := by
    simp [Checker.check, hr, he, Checker.scanTexts_lines]
  obtain ⟨rows, hfs, hrows⟩ := findings_separators_then_rows c.severity lines
  exact ⟨rows, _, hcheck, hfs, hrows⟩

def tableAfterBlocks : List String :=
  ["|===", "|---|", "|===", "----", "| a |", "----", "| b |", "|---|"]

theorem check_separators_then_rows_after_blocks :
    (Checker.ofRule .markdownTable).rule = .markdownTable ∧
      (Checker.ofRule .markdownTable).enabled = true ∧
      ∃ (rows : List Nat) (fs : List Finding), ((Checker.ofRule .markdownTable).check
          (fun _ => false) (.entries (tableAfterBlocks.map .line))).1 = .ok fs ∧
        fs = ((List.range tableAfterBlocks.length).filter fun i =>
              !skipped tableAfterBlocks i && isSeparator (tableAfterBlocks.getD i "")).map
            (fun i => Finding.atLine "FMT005" .error (i + 1)
              "Markdown table separator detected. Use AsciiDoc table syntax (|===) instead"
              (.str (tableAfterBlocks.getD i ""))) ++
          rows.map (fun j => Finding.atLine "FMT005" .error (j + 1)
              "Markdown table row detected. Use AsciiDoc table syntax (|===) instead"
              (.str (tableAfterBlocks.getD j ""))) ∧
        rows.Pairwise (· < ·) := by
  obtain ⟨rows, fs, hc, hfs, hrows, -⟩ :=
    @check_separators_then_rows (Checker.ofRule .markdownTable) rfl rfl (fun _ => false)
      tableAfterBlocks
  exact ⟨rfl, rfl, rows, fs, hc, hfs, hrows⟩

-- The first table line lies in the AsciiDoc table and the second in the listing block; the last
-- two lines are free.
example : (List.range tableAfterBlocks.length).map (skipped tableAfterBlocks) =
    [true, true, true, true, true, true, false, false] := by
  decide +kernel

end AdocLint.MarkdownTables
