import AdocLint.Proofs.TableStructure

/-! The content rule gives each table at most one finding, at its first row with an undeclared list.
-/

namespace AdocLint.Tables

def UndeclaredList (cell : String × String) : Prop :=
  (cell.2.toList.head? = some '*' ∨ cell.2.toList.head? = some '-') ∧
    cell.1 ≠ "a" ∧ cell.1 ≠ "l"

instance (cell : String × String) : Decidable (UndeclaredList cell) :=
  inferInstanceAs (Decidable (_ ∧ _ ∧ _))

def ListRow (s : String) : Prop :=
  Text.trim s ≠ "" ∧ Text.trim s ≠ "|===" ∧ ∃ cell ∈ cells s, UndeclaredList cell

instance (s : String) : Decidable (ListRow s) :=
  inferInstanceAs (Decidable (_ ∧ _ ∧ _))

def listFinding (r : Nat × String) : Finding :=
  tableFinding "TABLE003" .warning r.1 "List in table cell requires 'a|' or 'l|' declaration" r.2

/-! ### Declarations of cells -/

theorem declaration?_eq {seg : List Char} {d : String} (h : declaration? seg = some d) :
    d = "a" ∨ d = "l" := by
  unfold declaration? at h
  split at h
  · rename_i c _
    split at h
    · cases h
      rcases (by simpa using ‹(c == 'a' || c == 'l') = true›) with rfl | rfl
      · exact .inl rfl
      · exact .inr rfl
    · cases h
  · cases h

theorem mem_cellsOfSegments_declaration : ∀ (segs : List (List Char)),
    ∀ cell ∈ cellsOfSegments segs, cell.1 = "" ∨ cell.1 = "a" ∨ cell.1 = "l"
  | [] => by simp [cellsOfSegments]
  | [seg] => by simp [cellsOfSegments]
  | seg :: next :: rest => by
    intro cell hcell
    rw [cellsOfSegments] at hcell
    rcases h : declaration? seg with _ | d
    · rw [h] at hcell
      rcases List.mem_cons.1 hcell with rfl | hcell
      · exact .inl rfl
      · exact mem_cellsOfSegments_declaration (next :: rest) cell hcell
    · rw [h] at hcell
      rcases List.mem_cons.1 hcell with rfl | hcell
      · exact .inr (declaration?_eq h)
      · exact mem_cellsOfSegments_declaration rest cell hcell

theorem mem_cells_declaration {s : String} {cell : String × String} (h : cell ∈ cells s) :
    cell.1 = "" ∨ cell.1 = "a" ∨ cell.1 = "l" := by
  unfold cells at h
  split at h
  · simp at h
  · exact mem_cellsOfSegments_declaration _ cell h

theorem undeclaredList_iff {s : String} {cell : String × String} (h : cell ∈ cells s) :
    undeclaredList cell = true ↔ UndeclaredList cell := by
  obtain ⟨d, content⟩ := cell
  -- a cell that declares nothing is exactly one that declares neither `a` nor `l`
  rcases mem_cells_declaration h with hd | hd | hd <;> dsimp only at hd <;> subst hd <;>
    cases hc : content.toList <;> simp [undeclaredList, UndeclaredList, hc]

/-! ### The rule -/

theorem listRow_test (s : String) :
    ((Text.trim s).isEmpty || Text.trim s == "|===" || !(cells s).any undeclaredList) =
      !decide (ListRow s) := by
  have hany :
      (cells s).any undeclaredList = true ↔ ∃ cell ∈ cells s, UndeclaredList cell := by
    rw [List.any_eq_true]
    exact exists_congr fun cell => and_congr_right fun h => undeclaredList_iff h
  by_cases hrow : ListRow s
  · rw [decide_eq_true hrow]
    obtain ⟨hne, hdel, hcell⟩ := hrow
    simp [hne, hdel, hany.2 hcell]
  · rw [decide_eq_false hrow]
    simp only [ListRow, not_and] at hrow
    simp only [Bool.not_false, Bool.or_eq_true, beq_iff_eq, String.isEmpty_iff,
      Bool.not_eq_true', List.any_eq_false]
    by_cases hne : Text.trim s = ""
    · exact .inl (.inl hne)
    by_cases hdel : Text.trim s = "|==="
    · exact .inl (.inr hdel)
    exact .inr fun cell hcell hu => hrow hne hdel ⟨cell, hcell, (undeclaredList_iff hcell).1 hu⟩

theorem contentOf_eq (t : Table) :
    contentOf t = ((body t).find? fun r => decide (ListRow r.2)).map listFinding := by
  rw [List.find?_eq_findSome?_guard, List.map_findSome?, contentOf]
  congr 1
  funext r
  simp only [Function.comp_apply, listRow_test, Option.guard]
  by_cases h : ListRow r.2 <;> simp [h, listFinding]

/-- The content check of a document whose lines are `lines` gives, table by table in the order of
extraction, one finding for each table with a row strictly between its first and last line that
is neither blank nor a delimiter and has a cell whose content starts with `*` or `-` and that
declares neither `a` nor `l`; the finding stands at the first such row. -/
theorem check_content_first_list_row (isFile : String → Bool) (doc : Document)
    (lines : List String) (hdoc : doc.lineEntries = .ok (lines.map .line)) :
    ∃ ts, extract (lines.map .line) = .ok ts ∧
      ((Checker.ofRule .tableContent).check isFile doc).1 = .ok (ts.filterMap fun t =>
        ((body t).find? fun r => decide (ListRow r.2)).map listFinding) := by
  refine ⟨_, extract_lines lines, ?_⟩
  have hcheck : ((Checker.ofRule .tableContent).check isFile doc).1 =
      contentFindings (lines.map .line) := by
    simp only [Checker.check, Checker.ofRule, hdoc]
    rfl
  rw [hcheck, contentFindings, extract_lines]
  simp only [bind, Except.bind, pure, Except.pure, Except.ok.injEq]
  congr 1
  funext t
  exact contentOf_eq t

theorem check_content_first_list_row_after_declared :
    (Document.text "|===\na| * x\n| - y\n| * z\n|===\n|===\n| b\n|===").lineEntries =
      .ok ((Text.lines "|===\na| * x\n| - y\n| * z\n|===\n|===\n| b\n|===").map .line) ∧
    ∃ ts, extract ((Text.lines "|===\na| * x\n| - y\n| * z\n|===\n|===\n| b\n|===").map .line) =
        .ok ts ∧
      ((Checker.ofRule .tableContent).check (fun _ => false)
          (.text "|===\na| * x\n| - y\n| * z\n|===\n|===\n| b\n|===")).1 =
        .ok (ts.filterMap fun t =>
          ((body t).find? fun r => decide (ListRow r.2)).map listFinding) :=
  ⟨rfl, check_content_first_list_row (fun _ => false)
    (.text "|===\na| * x\n| - y\n| * z\n|===\n|===\n| b\n|===")
    (Text.lines "|===\na| * x\n| - y\n| * z\n|===\n|===\n| b\n|===") rfl⟩

end AdocLint.Tables
