import AdocLint.Proofs.LineChecks

/-! Cells and columns of a table row: a column per bar but a closing one, a cell per bar but the
declaring ones. -/

namespace AdocLint.Tables

def ClosingRun (r : List Char) : Prop :=
  ∃ k, 3 ≤ k ∧ (r = List.replicate k '=' ∨ r = List.replicate k '=' ++ ['\n'])

def EndsInClosingBar (cs : List Char) : Prop :=
  ∃ pre r, cs = pre ++ '|' :: r ∧ ClosingRun r

def closingBar : List Char → Bool
  | [] => false
  | c :: rest => (c == '|' && closesRow rest) || closingBar rest

/-! ### Closing bars -/

theorem takeWhile_closing_tail {k : Nat} {tail : List Char} (ht : tail = [] ∨ tail = ['\n']) :
    (List.replicate k '=' ++ tail).takeWhile (· == '=') = List.replicate k '=' := by
  rw [List.takeWhile_append_of_pos (by simp)]
  rcases ht with rfl | rfl <;> simp

theorem closesRow_iff (r : List Char) : closesRow r = true ↔ ClosingRun r := by
  have hall : (r.takeWhile (· == '=')).all (· == '=') = true := List.all_takeWhile
  have hrun : r.takeWhile (· == '=') = List.replicate (r.takeWhile (· == '=')).length '=' :=
    List.eq_replicate_iff.2 ⟨rfl, fun c hc => by simpa using List.all_eq_true.1 hall c hc⟩
  have hsplit : r = List.replicate (r.takeWhile (· == '=')).length '=' ++ r.dropWhile (· == '=') := by
    rw [← hrun]
    exact List.takeWhile_append_dropWhile.symm
  unfold closesRow
  simp only [drop_length_takeWhile, Bool.and_eq_true, decide_eq_true_eq]
  constructor
  · -- the run is all of the row but a final line feed
    rintro ⟨hk, htail⟩
    refine ⟨_, hk, ?_⟩
    split at htail
    · rename_i hd
      rw [hd, List.append_nil] at hsplit
      exact .inl hsplit
    · rename_i hd
      rw [hd] at hsplit
      exact .inr hsplit
    · cases htail
  · rintro ⟨k, hk, hr | hr⟩
    · have ht : (List.replicate k '=' ++ []).takeWhile (· == '=') = List.replicate k '=' :=
        takeWhile_closing_tail (Or.inl rfl)
      rw [List.append_nil] at ht
      refine ⟨by rw [hr, ht]; simpa using hk, ?_⟩
      rw [hr, List.dropWhile_replicate]
      simp
    · have ht : (List.replicate k '=' ++ ['\n']).takeWhile (· == '=') = List.replicate k '=' :=
        takeWhile_closing_tail (Or.inr rfl)
      refine ⟨by rw [hr, ht]; simpa using hk, ?_⟩
      have hd : (List.replicate k '=' ++ ['\n']).dropWhile (· == '=') = ['\n'] := by
        rw [List.dropWhile_append_of_pos (by simp)]
        rfl
      rw [hr, hd]
      rfl

theorem count_bar_closingRun {r : List Char} (h : ClosingRun r) : r.count '|' = 0 := by
  obtain ⟨k, -, rfl | rfl⟩ := h <;> simp [List.count_replicate]

theorem endsInClosingBar_cons (c : Char) (rest : List Char) :
    EndsInClosingBar (c :: rest) ↔ (c = '|' ∧ ClosingRun rest) ∨ EndsInClosingBar rest := by
  constructor
  · rintro ⟨pre, r, hcs, hr⟩
    cases pre with
    | nil =>
      simp only [List.nil_append, List.cons.injEq] at hcs
      obtain ⟨rfl, rfl⟩ := hcs
      exact .inl ⟨rfl, hr⟩
    | cons p pre =>
      simp only [List.cons_append, List.cons.injEq] at hcs
      exact .inr ⟨pre, r, hcs.2, hr⟩
  · rintro (⟨rfl, hr⟩ | ⟨pre, r, rfl, hr⟩)
    · exact ⟨[], rest, rfl, hr⟩
    · exact ⟨c :: pre, r, rfl, hr⟩

theorem closingBar_iff : ∀ cs : List Char, closingBar cs = true ↔ EndsInClosingBar cs
  | [] => by
    simp only [closingBar, Bool.false_eq_true, false_iff]
    rintro ⟨pre, r, h, -⟩
    cases pre <;> cases h
  | c :: rest => by
    rw [closingBar, endsInClosingBar_cons, ← closingBar_iff rest, ← closesRow_iff]
    simp

theorem openingBars_add_closing (whole : List Char) : ∀ (cs : List Char) (k : Nat),
    whole.drop k = cs →
      ((cs.zipIdx k).filter fun p => p.1 == '|' && !closesRow (whole.drop (p.2 + 1))).length +
        (if closingBar cs then 1 else 0) = cs.count '|'
  | [], _, _ => rfl
  | c :: rest, k, hk => by
    have hnext : whole.drop (k + 1) = rest := by
      rw [← List.drop_drop, hk, List.drop_one, List.tail_cons]
    have ih := openingBars_add_closing whole rest (k + 1) hnext
    simp only [List.zipIdx_cons, List.filter_cons, hnext, closingBar, List.count_cons]
    by_cases hc : c = '|'
    · subst hc
      by_cases hr : closesRow rest = true
      · -- the closing bar: no bar follows it, so the rest adds nothing
        have hzero := count_bar_closingRun ((closesRow_iff rest).1 hr)
        have hb : closingBar rest = false := by
          cases hb : closingBar rest
          · rfl
          · simp [hb, hzero] at ih
        simp only [hb, hzero, Bool.false_eq_true, if_false, Nat.add_zero] at ih
        simp [hr, hb, hzero, ih]
      · -- an opening bar counts one column more
        simp only [Bool.not_eq_true] at hr
        simp only [hr, beq_self_eq_true, Bool.not_false, Bool.and_self, Bool.and_false,
          Bool.false_or, if_true, List.length_cons]
        generalize (if closingBar rest = true then 1 else 0) = b at ih ⊢
        omega
    · have hne : (c == '|') = false := by simpa using hc
      simp only [hne, Bool.false_and, Bool.false_or, Bool.false_eq_true, if_false, Nat.add_zero]
      exact ih

theorem countColumns_add_closing (s : String) (hs : Text.trim s ≠ "|===") :
    countColumns s + (if closingBar s.toList then 1 else 0) = s.toList.count '|' := by
  have hne : (Text.trim s == "|===") = false := by simpa using hs
  rw [countColumns, if_neg (by simp [hne])]
  exact openingBars_add_closing s.toList s.toList 0 rfl

/-- The structure rule's column count of a row: none for a table delimiter; otherwise one per
bar, less one when the row ends in a bar followed only by three or more `=` and at most a final
line feed. -/
theorem countColumns_eq_bars (s : String) :
    (Text.trim s = "|===" → countColumns s = 0) ∧
      (Text.trim s ≠ "|===" → EndsInClosingBar s.toList →
        countColumns s = s.toList.count '|' - 1) ∧
      (Text.trim s ≠ "|===" → ¬EndsInClosingBar s.toList →
        countColumns s = s.toList.count '|') := by
  refine ⟨fun h => by simp [countColumns, h], fun hs hend => ?_, fun hs hend => ?_⟩
  · -- the closing bar is the one bar that opens no column
    have h := countColumns_add_closing s hs
    rw [if_pos ((closingBar_iff _).2 hend)] at h
    omega
  · have h := countColumns_add_closing s hs
    rwa [if_neg (fun hb => hend ((closingBar_iff _).1 hb)), Nat.add_zero] at h

theorem countColumns_eq_bars_closing_line_feed :
    Text.trim "| a | b |====\n" ≠ "|===" ∧ EndsInClosingBar "| a | b |====\n".toList ∧
      countColumns "| a | b |====\n" = "| a | b |====\n".toList.count '|' - 1 := by
  have hs : Text.trim "| a | b |====\n" ≠ "|===" := by decide +kernel
  have hend : EndsInClosingBar "| a | b |====\n".toList :=
    (closingBar_iff _).1 (by decide +kernel)
  exact ⟨hs, hend, (countColumns_eq_bars "| a | b |====\n").2.1 hs hend⟩

/-! ### Cells -/

theorem length_segments : ∀ cs : List Char, (segments cs).length = cs.count '|' + 1
  | [] => rfl
  | c :: cs => by
    have ih := length_segments cs
    rw [segments, List.count_cons]
    rcases h : segments cs with _ | ⟨seg, rest⟩
    · simp [h] at ih
    · rw [h, List.length_cons] at ih
      by_cases hc : c = '|'
      · simp [hc, ih]
      · have hne : (c == '|') = false := by simpa using hc
        simp [hne]
        omega

theorem declaration?_ne_empty {seg : List Char} {d : String} (h : declaration? seg = some d) :
    d ≠ "" := by
  unfold declaration? at h
  split at h
  · split at h
    · cases h
      simp
    · cases h
  · cases h

theorem length_cellsOfSegments : ∀ segs : List (List Char),
    (cellsOfSegments segs).length + (cellsOfSegments segs).countP (·.1 != "") = segs.length
  | [] => rfl
  | [seg] => by simp [cellsOfSegments]
  | seg :: next :: rest => by
    rw [cellsOfSegments]
    rcases h : declaration? seg with _ | d
    · have ih := length_cellsOfSegments (next :: rest)
      simp only [List.length_cons, List.countP_cons, bne_self_eq_false, Bool.false_eq_true,
        if_false] at ih ⊢
      omega
    · -- a declared cell takes two parts
      have ih := length_cellsOfSegments rest
      have hd : (d != "") = true := by simpa using declaration?_ne_empty h
      simp only [List.length_cons, List.countP_cons, hd, if_true]
      omega

theorem length_cells_add_declared (s : String) (hs : Text.trim s ≠ "|===") :
    (cells s).length + (cells s).countP (·.1 != "") = s.toList.count '|' := by
  have hne : (Text.trim s == "|===") = false := by simpa using hs
  rw [cells, if_neg (by simp [hne]), length_cellsOfSegments, List.length_drop, length_segments]
  omega

/-- Where no cell of a row declares `a` or `l`, the structure rule counts as many columns as the
content rule finds cells, less one when the row ends in a bar followed only by three or more `=`
and at most a final line feed. -/
theorem countColumns_eq_length_cells (s : String) (hs : Text.trim s ≠ "|===")
    (hplain : ∀ c ∈ cells s, c.1 = "") :
    (EndsInClosingBar s.toList → countColumns s + 1 = (cells s).length) ∧
      (¬EndsInClosingBar s.toList → countColumns s = (cells s).length) := by
  have hcols := countColumns_add_closing s hs
  have hcells := length_cells_add_declared s hs
  have hnone : (cells s).countP (·.1 != "") = 0 :=
    List.countP_eq_zero.2 fun c hc => by simp [hplain c hc]
  rw [hnone, Nat.add_zero] at hcells
  constructor
  · intro h
    rw [if_pos ((closingBar_iff _).2 h)] at hcols
    omega
  · intro h
    rw [if_neg (fun hb => h ((closingBar_iff _).1 hb))] at hcols
    omega

/-- A row with a bar before a closing run: the structure rule counts one column, the content rule
finds two cells. -/
theorem countColumns_ne_length_cells_closing_bar :
    Text.trim "|b|===" ≠ "|===" ∧ countColumns "|b|===" ≠ (cells "|b|===").length := by
  decide +kernel

theorem countColumns_eq_length_cells_closing_bar :
    Text.trim "|b|===" ≠ "|===" ∧ (∀ c ∈ cells "|b|===", c.1 = "") ∧
      (EndsInClosingBar "|b|===".toList → countColumns "|b|===" + 1 = (cells "|b|===").length) ∧
      (¬EndsInClosingBar "|b|===".toList → countColumns "|b|===" = (cells "|b|===").length) := by
  have hs : Text.trim "|b|===" ≠ "|===" := by decide +kernel
  have hplain : ∀ c ∈ cells "|b|===", c.1 = "" := by decide +kernel
  exact ⟨hs, hplain, countColumns_eq_length_cells "|b|===" hs hplain⟩

end AdocLint.Tables
