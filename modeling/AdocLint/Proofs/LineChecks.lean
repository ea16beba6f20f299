import AdocLint.Proofs.BlankRuns

/-! Where single-line checks point: the columns of Markdown images and links, and the runs of `=`
that the format and whitespace rules report. -/

namespace AdocLint

theorem drop_length_takeWhile {α : Type} (p : α → Bool) :
    ∀ l : List α, l.drop (l.takeWhile p).length = l.dropWhile p
  | [] => rfl
  | a :: l => by
    rw [List.takeWhile_cons, List.dropWhile_cons]
    split
    · simp [drop_length_takeWhile p l]
    · simp

namespace Markdown

theorem eq_append_of_drop_takeWhile {stop : Char} {cs rest : List Char}
    (h : cs.drop (cs.takeWhile (· != stop)).length = stop :: rest) :
    cs = cs.takeWhile (· != stop) ++ stop :: rest := by
  rw [drop_length_takeWhile] at h
  rw [← h, List.takeWhile_append_dropWhile]

theorem exists_split_of_takeWhile_lt {stop : Char} {cs : List Char}
    (h : (cs.takeWhile (· != stop)).length < cs.length) :
    ∃ rest, cs = cs.takeWhile (· != stop) ++ stop :: rest := by
  have hne : cs.dropWhile (· != stop) ≠ [] := by
    intro he
    have hsplit : cs.takeWhile (· != stop) ++ cs.dropWhile (· != stop) = cs :=
      List.takeWhile_append_dropWhile
    have hlen := congrArg List.length hsplit
    rw [he, List.append_nil] at hlen
    omega
  obtain ⟨c, rest, hc⟩ := List.exists_cons_of_ne_nil hne
  have hstop : c = stop := by
    have := List.head_dropWhile_not (· != stop) hne
    simpa [hc] using this
  subst hstop
  refine ⟨rest, ?_⟩
  rw [← hc, List.takeWhile_append_dropWhile]

theorem bracketLink_starts {cs l t : List Char} {k : Nat} (h : bracketLink cs = some (l, t, k)) :
    k = l.length + t.length + 3 ∧ l ++ ']' :: '(' :: t ++ [')'] <+: cs := by
  unfold bracketLink at h
  dsimp only at h
  split at h
  · rename_i r hr
    split at h
    · rename_i hlen
      simp only [Option.some.injEq, Prod.mk.injEq] at h
      obtain ⟨rfl, rfl, rfl⟩ := h
      simp only [Bool.and_eq_true, Bool.not_eq_true', List.isEmpty_eq_false_iff,
        decide_eq_true_eq] at hlen
      obtain ⟨rest, hrest⟩ := exists_split_of_takeWhile_lt hlen.2
      refine ⟨rfl, rest, ?_⟩
      calc _ = cs.takeWhile (· != ']') ++ ']' :: '(' :: (r.takeWhile (· != ')') ++ ')' :: rest) := by
            simp
        _ = cs.takeWhile (· != ']') ++ ']' :: '(' :: r := by rw [← hrest]
        _ = cs := (eq_append_of_drop_takeWhile hr).symm
    · cases h
  · cases h

theorem imageAt_starts {cs a p : List Char} {k : Nat} (h : imageAt cs = some (a, p, k)) :
    0 < k ∧ '!' :: '[' :: a ++ ']' :: '(' :: p ++ [')'] <+: cs := by
  unfold imageAt at h
  split at h
  · obtain ⟨⟨a', p', k'⟩, hb, he⟩ := Option.map_eq_some_iff.1 h
    simp only [Prod.mk.injEq] at he
    obtain ⟨rfl, rfl, rfl⟩ := he
    obtain ⟨-, hpre⟩ := bracketLink_starts hb
    refine ⟨by omega, ?_⟩
    simpa using hpre
  · cases h

theorem linkAt_starts {cs t u : List Char} {k : Nat} (h : linkAt cs = some (t, u, k)) :
    0 < k ∧ '[' :: t ++ ']' :: '(' :: u ++ [')'] <+: cs := by
  unfold linkAt at h
  split at h
  · split at h
    · rename_i hb
      split at h
      · cases h
      · simp only [Option.some.injEq, Prod.mk.injEq] at h
        obtain ⟨rfl, rfl, rfl⟩ := h
        obtain ⟨-, hpre⟩ := bracketLink_starts hb
        refine ⟨by omega, ?_⟩
        simpa using hpre
    · cases h
  · cases h

theorem mem_matchesFrom {find : List Char → Option (List Char × List Char × Nat)}
    (hfind : ∀ cs a b k, find cs = some (a, b, k) → 0 < k) {j : Nat} {a b : List Char} :
    ∀ {i : Nat} {cs : List Char}, (j, a, b) ∈ matchesFrom find i cs →
      i ≤ j ∧ ∃ k, find (cs.drop (j - i)) = some (a, b, k) := by
  intro i cs
  induction i, cs using matchesFrom.induct find with
  | case1 i => simp [matchesFrom]
  | case2 i c cs a' b' k hk ih =>
    rw [matchesFrom, hk, List.mem_cons]
    rintro (h | h)
    · simp only [Prod.mk.injEq] at h
      obtain ⟨rfl, rfl, rfl⟩ := h
      exact ⟨Nat.le_refl _, k, by simpa using hk⟩
    · have hk0 := hfind _ _ _ _ hk
      obtain ⟨hle, k', hk'⟩ := ih h
      refine ⟨by omega, k', ?_⟩
      rw [show j - i = (k - 1 + (j - (i + k))) + 1 by omega, List.drop_succ_cons, ← List.drop_drop]
      exact hk'
  | case3 i c cs hn ih =>
    rw [matchesFrom, hn]
    intro h
    obtain ⟨hle, k', hk'⟩ := ih h
    refine ⟨by omega, k', ?_⟩
    rw [show j - i = (j - (i + 1)) + 1 by omega, List.drop_succ_cons]
    exact hk'

theorem withoutImages_eq_self :
    ∀ {cs : List Char}, (∀ k, imageAt (cs.drop k) = none) → withoutImages cs = cs := by
  intro cs
  induction cs using withoutImages.induct with
  | case1 =>
    intro _
    rw [withoutImages]
  | case2 c cs a p k hk _ =>
    intro h
    have := h 0
    simp [hk] at this
  | case3 c cs hn ih =>
    intro h
    rw [withoutImages, hn, ih fun k => by simpa using h (k + 1)]

theorem mem_lineIssues_column {s m : String} {n : Nat} (h : (m, some n) ∈ lineIssues s) :
    (¬Text.hasMacro "image:".toList s.toList ∧ ∃ a p, (n - 1, a, p) ∈ matchesFrom imageAt 0 s.toList ∧
        0 < n ∧ m = "Markdown image detected: '![" ++ String.ofList a ++ "](" ++ String.ofList p ++
          ")' should be 'image::" ++ String.ofList p ++ "[" ++ String.ofList a ++ "]' in AsciiDoc") ∨
      (∃ t u, (n - 1, t, u) ∈ matchesFrom linkAt 0 (withoutImages s.toList) ∧ 0 < n ∧
        m = "Markdown link detected: '[" ++ String.ofList t ++ "](" ++ String.ofList u ++
          ")' should be 'link:" ++ String.ofList u ++ "[" ++ String.ofList t ++ "]' in AsciiDoc") := by
  unfold lineIssues at h
  dsimp only at h
  simp only [List.mem_append] at h
  rcases h with (((hh | hi) | hl) | hf) | hq
  · split at hh <;> simp at hh
  · split at hi
    · simp at hi
    · rename_i hmacro
      obtain ⟨⟨j, a, p⟩, hj, he⟩ := List.mem_map.1 hi
      simp only [Prod.mk.injEq, Option.some.injEq] at he
      obtain ⟨rfl, rfl⟩ := he
      refine .inl ⟨by simpa using hmacro, a, p, by simpa using hj, by omega, rfl⟩
  · split at hl
    · simp at hl
    · obtain ⟨⟨j, t, u⟩, hj, he⟩ := List.mem_map.1 hl
      simp only [Prod.mk.injEq, Option.some.injEq] at he
      obtain ⟨rfl, rfl⟩ := he
      exact .inr ⟨t, u, by simpa using hj, by omega, rfl⟩
  · split at hf <;> simp at hf
  · split at hq <;> simp at hq

/-- Every column of a Markdown finding points at the construct its message quotes: an image in the
line itself, a link in the line with its Markdown images taken out, and that copy is the line
itself when the line holds no image. -/
theorem lineFindings_column_quotes (sev : Severity) (i : Nat) (s : String) :
    (∀ f ∈ lineFindings sev i s, ∀ c, f.position.bind (·.column) = some c →
      ∃ j : Nat, c = j + 1 ∧
        ((∃ a p : String, f.message = "Markdown image detected: '![" ++ a ++ "](" ++ p ++
            ")' should be 'image::" ++ p ++ "[" ++ a ++ "]' in AsciiDoc" ∧
            ("![" ++ a ++ "](" ++ p ++ ")").toList <+: s.toList.drop j) ∨
          (∃ t u : String, f.message = "Markdown link detected: '[" ++ t ++ "](" ++ u ++
            ")' should be 'link:" ++ u ++ "[" ++ t ++ "]' in AsciiDoc" ∧
            ("[" ++ t ++ "](" ++ u ++ ")").toList <+: (withoutImages s.toList).drop j))) ∧
      ((∀ k, imageAt (s.toList.drop k) = none) → withoutImages s.toList = s.toList) := by
  refine ⟨?_, withoutImages_eq_self⟩
  intro f hf c hc
  unfold lineFindings at hf
  split at hf
  · simp at hf
  · obtain ⟨⟨m, col⟩, hmem, rfl⟩ := List.mem_map.1 hf
    cases col with
    | none => simp at hc
    | some n =>
      simp only [Option.bind_some] at hc
      rcases mem_lineIssues_column hmem with ⟨-, a, p, hj, hn, rfl⟩ | ⟨t, u, hj, hn, rfl⟩
      · -- an image: searched for in the line itself
        obtain ⟨-, k, hk⟩ := mem_matchesFrom (fun _ _ _ _ h => (imageAt_starts h).1) hj
        refine ⟨n - 1, ?_, .inl ⟨String.ofList a, String.ofList p, rfl, ?_⟩⟩
        · simp at hc
          omega
        · simpa [String.toList_append] using (imageAt_starts hk).2
      · -- a link: searched for in the image-free copy
        obtain ⟨-, k, hk⟩ := mem_matchesFrom (fun _ _ _ _ h => (linkAt_starts h).1) hj
        refine ⟨n - 1, ?_, .inr ⟨String.ofList t, String.ofList u, rfl, ?_⟩⟩
        · simp at hc
          omega
        · simpa [String.toList_append] using (linkAt_starts hk).2

theorem lineFindings_column_quotes_after_image :
    ∃ f ∈ lineFindings .warning 0 "![a](b) [t](u)",
      f.message = "Markdown link detected: '[t](u)' should be 'link:u[t]' in AsciiDoc" ∧
      f.position.bind (·.column) = some 2 ∧
      ∃ j : Nat, (2 : Int) = j + 1 ∧
        ((∃ a p : String, f.message = "Markdown image detected: '![" ++ a ++ "](" ++ p ++
            ")' should be 'image::" ++ p ++ "[" ++ a ++ "]' in AsciiDoc" ∧
            ("![" ++ a ++ "](" ++ p ++ ")").toList <+: "![a](b) [t](u)".toList.drop j) ∨
          (∃ t u : String, f.message = "Markdown link detected: '[" ++ t ++ "](" ++ u ++
            ")' should be 'link:" ++ u ++ "[" ++ t ++ "]' in AsciiDoc" ∧
            ("[" ++ t ++ "](" ++ u ++ ")").toList <+:
              (withoutImages "![a](b) [t](u)".toList).drop j)) := by
  have hany : (lineFindings .warning 0 "![a](b) [t](u)").any (fun f =>
      f.message == "Markdown link detected: '[t](u)' should be 'link:u[t]' in AsciiDoc" &&
        f.position.bind (·.column) == some 2) = true := by
    decide +kernel
  obtain ⟨f, hf, hp⟩ := List.any_eq_true.1 hany
  simp only [Bool.and_eq_true, beq_iff_eq] at hp
  exact ⟨f, hf, hp.1, hp.2,
    (lineFindings_column_quotes .warning 0 "![a](b) [t](u)").1 f hf 2 hp.2⟩

end Markdown

def RunMessage (m : String) : Prop :=
  ∃ n, 0 < n ∧ m = "Missing space after " ++ String.ofList (List.replicate n '=')

theorem RunMessage.char_twenty {m : String} (h : RunMessage m) : m.toList[20]? = some '=' := by
  obtain ⟨n, hn, rfl⟩ := h
  obtain ⟨k, rfl⟩ : ∃ k, n = k + 1 := ⟨n - 1, by omega⟩
  simp [String.toList_append, List.replicate_succ]

theorem not_runMessage {m : String} (h : m.toList[20]? ≠ some '=') : ¬RunMessage m :=
  fun hr => h hr.char_twenty

theorem runMessage_of_head {s : String} (h : s.toList.head? = some '=') :
    RunMessage ("Missing space after " ++
      String.ofList (List.replicate (s.toList.takeWhile (· == '=')).length '=')) := by
  refine ⟨_, ?_, rfl⟩
  cases hcs : s.toList with
  | nil => simp [hcs] at h
  | cons c cs =>
    simp only [hcs, List.head?_cons, Option.some.injEq] at h
    simp [h]

namespace Headings

theorem formatParts?_run {s : String} (hs : '\n' ∉ s.toList) :
    (∃ level title, 0 < level ∧ formatParts? s = some (level, false, title)) ↔
      s.toList.head? = some '=' ∧
        ∀ c ∈ (s.toList.dropWhile (· == '=')).head?, Text.isBlank c = false := by
  unfold formatParts?
  dsimp only
  simp only [drop_length_takeWhile]
  cases hcs : s.toList with
  | nil => simp
  | cons c cs =>
    by_cases hc : c = '='
    · subst hc
      cases hrun : (cs.dropWhile (· == '=')) with
      | nil => simp [hrun]
      | cons d ds =>
        by_cases hd : Text.isBlank d = true
        · simp [hrun, hd]
        · -- the title follows the run at once, and holds no line feed
          have hnl : '\n' ∉ (d :: ds).dropLast := fun h => by
            have hmem : '\n' ∈ cs.dropWhile (· == '=') := hrun ▸ List.dropLast_subset _ h
            exact hs (hcs ▸ List.mem_cons_of_mem _ ((List.dropWhile_sublist _).subset hmem))
          simp [hrun, hd, hnl]
    · simp [hc]

theorem formatParts?_pos {s : String} {level : Nat} {spaced : Bool} {title : List Char}
    (h : formatParts? s = some (level, spaced, title)) : 0 < level := by
  unfold formatParts? at h
  dsimp only at h
  split at h
  · cases h
  · rename_i hcond
    simp only [Option.some.injEq, Prod.mk.injEq] at h
    obtain ⟨rfl, -, -⟩ := h
    simp only [Bool.or_eq_true, decide_eq_true_eq, not_or] at hcond
    omega

theorem formatLine_runMessage (i : Nat) (s : String) :
    (∃ f ∈ formatLine i s, RunMessage f.message) ↔
      ∃ level title, 0 < level ∧ formatParts? s = some (level, false, title) := by
  have hcap : ¬RunMessage "Heading should start with uppercase letter" :=
    not_runMessage (by decide)
  unfold formatLine
  rcases hp : formatParts? s with _ | ⟨level, spaced, title⟩
  · simp
  · have hlevel := formatParts?_pos hp
    cases spaced with
    | true =>
      -- a spaced run: only the message on a lower-case title can be reported
      refine iff_of_false ?_ (by simp)
      rintro ⟨f, hf, hr⟩
      simp only [if_true, List.nil_append] at hf
      split at hf
      · split at hf
        · simp only [List.mem_singleton] at hf
          subst hf
          exact hcap hr
        · simp at hf
      · simp at hf
    | false =>
      simp only [Bool.false_eq_true, if_false]
      refine iff_of_true ⟨_, List.mem_append_left _ (List.mem_singleton_self _), ⟨level, hlevel, rfl⟩⟩
        ⟨level, title, hlevel, rfl⟩

theorem check_single_runMessage (isFile : String → Bool) {s : String} (hs : '\n' ∉ s.toList) :
    (∃ fs, ((Checker.ofRule .headingFormat).check isFile (.entries [.line s])).1 = .ok fs ∧
      ∃ f ∈ fs, RunMessage f.message) ↔
    s.toList.head? = some '=' ∧
      ∀ c ∈ (s.toList.dropWhile (· == '=')).head?, Text.isBlank c = false := by
  have hcheck : ((Checker.ofRule .headingFormat).check isFile (.entries [.line s])).1 =
      .ok (formatLine 0 s) := by
    simp only [Checker.check, Checker.ofRule, Document.lineEntries]
    simp [Except.map, formatFindings]
  rw [hcheck, ← formatParts?_run hs, ← formatLine_runMessage 0 s]
  simp

end Headings

namespace Spacing

theorem titleMessages_single (texts : Array String) (s : String) :
    titleMessages texts true 1 0 s =
      .ok (if s.toList.head? == some '=' &&
          (s.toList.dropWhile (· == '=')).head?.any (· != ' ') &&
          (s.toList.dropWhile (· == '=')).any (!Text.isBlank ·)
        then ["Missing space after " ++
          String.ofList (List.replicate (s.toList.takeWhile (· == '=')).length '=')]
        else []) := by
  unfold titleMessages
  simp only [drop_length_takeWhile]
  simp only [Nat.lt_irrefl, Nat.zero_add, if_false, pure, Except.pure]
  cases hcs : s.toList with
  | nil => rfl
  | cons c cs =>
    by_cases hc : c = '='
    · subst hc
      cases hr : cs.dropWhile (· == '=') with
      | nil => simp [hr]
      | cons d ds =>
        by_cases hd : d = ' '
        · -- a title: on a line without neighbours it gives no finding
          simp only [List.dropWhile_cons, beq_self_eq_true, if_true, hr, hd]
          simp
          intro _
          rfl
        · simp only [List.dropWhile_cons, beq_self_eq_true, if_true, hr]
          simp [hd, apply_ite Except.ok]
    · simp [hc]

theorem not_runMessage_marker (m : String) :
    ¬RunMessage ("Missing space after the marker '" ++ m ++ "'") :=
  not_runMessage (by simp [String.toList_append])

theorem lineFindings_runMessage {sev : Severity} {texts : Array String} {i run : Nat}
    {content : String} {title : List String}
    (ht : titleMessages texts true texts.size i content = .ok title)
    (ha : admonitionMessages texts true i content = .ok []) :
    ∃ fs, (lineFindings sev texts true i content run).1 = .ok fs ∧
      ((∃ f ∈ fs, RunMessage f.message) ↔ ∃ m ∈ title, RunMessage m) := by
  simp only [lineFindings, ht, ha]
  refine ⟨_, rfl, ?_⟩
  simp only [List.append_nil, List.mem_map, List.mem_append]
  constructor
  · rintro ⟨f, ⟨m, hm, rfl⟩, hr⟩
    change RunMessage m at hr
    refine ⟨m, ?_, hr⟩
    simp only [List.mem_ite_nil_right, List.mem_singleton, Option.mem_toList,
      Option.map_eq_some_iff] at hm
    -- the blank-run, marker, trailing-blank and tab messages name no run of `=`
    rcases hm with (((⟨-, rfl⟩ | ⟨k, -, rfl⟩) | ⟨-, rfl⟩) | ⟨-, rfl⟩) | hm
    · exact absurd hr (not_runMessage (by decide))
    · exact absurd hr (not_runMessage_marker k)
    · exact absurd hr (not_runMessage (by decide))
    · exact absurd hr (not_runMessage (by decide))
    · exact hm
  · rintro ⟨m, hm, hr⟩
    exact ⟨_, ⟨m, .inr hm, rfl⟩, hr⟩

theorem admonitionMessages_first (texts : Array String) (content : String) :
    admonitionMessages texts true 0 content = .ok [] := by
  simp [admonitionMessages]
  rfl

theorem check_single_runMessage (isFile : String → Bool) (s : String) :
    (∃ fs, ((Checker.ofRule .whitespace).check isFile (.entries [.line s])).1 = .ok fs ∧
      ∃ f ∈ fs, RunMessage f.message) ↔
    s.toList.head? = some '=' ∧ (∃ c ∈ (s.toList.dropWhile (· == '=')).head?, c ≠ ' ') ∧
      ∃ c ∈ s.toList.dropWhile (· == '='), Text.isBlank c = false := by
  obtain ⟨fs, hfs, hiff⟩ := @lineFindings_runMessage .warning #[s] 0 0 s _
    (titleMessages_single #[s] s) (admonitionMessages_first #[s] s)
  have hcheck : ((Checker.ofRule .whitespace).check isFile (.entries [.line s])).1 = .ok fs := by
    have hrun := scanFrom_cons_fst .warning #[s] true 0 0 s []
    rw [hfs] at hrun
    simpa [Checker.check, Checker.ofRule, findings, Document.scanEntries, Entry.text,
      Document.byPosition, Rule.defaultSeverity, bind, Except.bind, scanFrom, Except.map] using hrun
  rw [hcheck]
  simp only [Except.ok.injEq, exists_eq_left', hiff]
  split
  · rename_i hcond
    simp only [Bool.and_eq_true, beq_iff_eq, Option.any_eq_true, bne_iff_ne, ne_eq,
      List.any_eq_true, Bool.not_eq_true'] at hcond
    exact iff_of_true ⟨_, List.mem_singleton_self _, runMessage_of_head hcond.1.1⟩
      ⟨hcond.1.1, hcond.1.2, hcond.2⟩
  · rename_i hcond
    simp only [Bool.and_eq_true, beq_iff_eq, Option.any_eq_true, bne_iff_ne, ne_eq,
      List.any_eq_true, Bool.not_eq_true', not_and] at hcond
    refine iff_of_false (by simp) ?_
    rintro ⟨hh, hn, hb⟩
    exact hcond ⟨hh, hn⟩ hb

end Spacing

namespace Checker

/-- The format and whitespace checks of a single line report a missing space after the run of `=`
that opens it under different conditions: the format check when no blank follows the run, the
whitespace check when a character other than a space follows it and the rest is not blank. So a
bare run of `=` is reported by the format check only, and a run followed by another blank, such
as a tab, and then text by the whitespace check only. -/
theorem check_run_space_reports (isFile : String → Bool) {s : String}
    (hs : ∀ c ∈ s.toList, Text.isLineBreak c = false) :
    ((∃ fs, ((ofRule .headingFormat).check isFile (.entries [.line s])).1 = .ok fs ∧
        ∃ f ∈ fs, RunMessage f.message) ↔
      s.toList.head? = some '=' ∧
        ∀ c ∈ (s.toList.dropWhile (· == '=')).head?, Text.isBlank c = false) ∧
    ((∃ fs, ((ofRule .whitespace).check isFile (.entries [.line s])).1 = .ok fs ∧
        ∃ f ∈ fs, RunMessage f.message) ↔
      s.toList.head? = some '=' ∧ (∃ c ∈ (s.toList.dropWhile (· == '=')).head?, c ≠ ' ') ∧
        ∃ c ∈ s.toList.dropWhile (· == '='), Text.isBlank c = false) := by
  have hnl : '\n' ∉ s.toList := fun h => absurd (hs '\n' h) (by decide)
  exact ⟨Headings.check_single_runMessage isFile hnl, Spacing.check_single_runMessage isFile s⟩

theorem check_run_space_reports_delimiter :
    (∀ c ∈ "====".toList, Text.isLineBreak c = false) ∧
    (((∃ fs, ((ofRule .headingFormat).check (fun _ => false) (.entries [.line "===="])).1 = .ok fs ∧
        ∃ f ∈ fs, RunMessage f.message) ↔
      "====".toList.head? = some '=' ∧
        ∀ c ∈ ("====".toList.dropWhile (· == '=')).head?, Text.isBlank c = false) ∧
    ((∃ fs, ((ofRule .whitespace).check (fun _ => false) (.entries [.line "===="])).1 = .ok fs ∧
        ∃ f ∈ fs, RunMessage f.message) ↔
      "====".toList.head? = some '=' ∧ (∃ c ∈ ("====".toList.dropWhile (· == '=')).head?, c ≠ ' ') ∧
        ∃ c ∈ "====".toList.dropWhile (· == '='), Text.isBlank c = false)) := by
  have hs : ∀ c ∈ "====".toList, Text.isLineBreak c = false := by simp [Text.isLineBreak]
  exact ⟨hs, check_run_space_reports (fun _ => false) hs⟩

end Checker

end AdocLint
