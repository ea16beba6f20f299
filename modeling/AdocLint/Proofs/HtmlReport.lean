import AdocLint.Report
import AdocLint.Text.Blank

/-! The HTML report inserts texts as they are, so it reads back only where no field holds `</td>`.
-/

namespace AdocLint.Report

def rowFields (f : Finding) : String × String × String × String :=
  (f.rating.text, f.rule.getD "", f.location, f.message)

def CellSafe (f : Finding) : Prop :=
  ∀ x ∈ [f.rating.text, f.rule.getD "", f.location, f.message], Text.contains x "</td>" = false

instance (f : Finding) : Decidable (CellSafe f) :=
  inferInstanceAs (Decidable (∀ x ∈ _, _))

def rowLines (f : Finding) : List String :=
  ["<tr>", "<td>" ++ f.rating.text ++ "</td>", "<td>" ++ f.rule.getD "" ++ "</td>",
    "<td>" ++ f.location ++ "</td>", "<td>" ++ f.message ++ "</td>", "</tr>"]

def rowChars (f : Finding) : List Char :=
  "<tr>".toList ++ "\n".toList ++ "<td>".toList ++ f.rating.text.toList ++ "</td>".toList ++
    "\n".toList ++ "<td>".toList ++ (f.rule.getD "").toList ++ "</td>".toList ++
    "\n".toList ++ "<td>".toList ++ f.location.toList ++ "</td>".toList ++
    "\n".toList ++ "<td>".toList ++ f.message.toList ++ "</td>".toList ++
    "\n".toList ++ "</tr>".toList

def rowsChars : List Finding → List Char
  | [] => []
  | [f] => rowChars f
  | f :: g :: rest => rowChars f ++ '\n' :: rowsChars (g :: rest)

theorem hasInfix_iff_isInfix (pat : List Char) : ∀ cs : List Char,
    Text.hasInfix pat cs = true ↔ pat.IsInfix cs
  | [] => by simp [Text.hasInfix]
  | c :: cs => by
    rw [Text.hasInfix, Bool.or_eq_true, hasInfix_iff_isInfix pat cs, List.isPrefixOf_iff_prefix,
      List.infix_cons_iff]

theorem not_isInfix_of_cellSafe {f : Finding} (hf : CellSafe f) {x : String}
    (hx : x ∈ [f.rating.text, f.rule.getD "", f.location, f.message]) :
    ¬ "</td>".toList.IsInfix x.toList := by
  rw [← hasInfix_iff_isInfix, ← Text.contains, hf x hx]
  decide

/-! ### Reading the page back -/

theorem toList_intercalate_rowLine (f : Finding) :
    ("\n".intercalate (rowLines f)).toList = rowChars f := by
  unfold rowLines rowChars
  simp only [String.intercalate_cons_cons, String.intercalate_singleton, String.toList_append,
    List.append_assoc]

theorem toList_intercalate_rowLines : ∀ fs : List Finding,
    ("\n".intercalate (fs.flatMap rowLines)).toList = rowsChars fs
  | [] => rfl
  | [f] => by rw [List.flatMap_singleton, toList_intercalate_rowLine, rowsChars]
  | f :: g :: rest => by
    rw [List.flatMap_cons, String.intercalate_append_of_ne_nil (by simp [rowLines])
      (by simp [rowLines]), String.toList_append, String.toList_append,
      toList_intercalate_rowLines (g :: rest), rowsChars, toList_intercalate_rowLine]
    simp only [List.append_assoc]
    rfl

theorem html_toList (fs : List Finding) :
    (html fs).toList = htmlHead.toList ++ rowsChars fs ++ htmlTail.toList := by
  rw [← toList_intercalate_rowLines, html, String.toList_append, String.toList_append]
  rfl

theorem prefix_of_cellEnd_eq {a r₁ r₂ : List Char} (ha : a ≠ [])
    (h : "</td>".toList ++ r₁ = a ++ ("</td>".toList ++ r₂)) : "</td>".toList.IsPrefix a := by
  rcases List.append_eq_append_iff.1 h with ⟨x, hx, -⟩ | ⟨y, hy, hr⟩
  · exact ⟨x, hx.symm⟩
  · cases y with
    | nil => exact ⟨[], by rw [List.append_nil, hy, List.append_nil]⟩
    | cons d ys =>
      -- `d` starts `</td>` again, yet it stands after the first character
      have hd : d = '<' := by
        have := congrArg List.head? hr
        simpa using this.symm
      have hmem : d ∈ ['/', 't', 'd', '>'] := by
        obtain ⟨c, cs, rfl⟩ := List.exists_cons_of_ne_nil ha
        have hy' : ['<', '/', 't', 'd', '>'] = c :: (cs ++ d :: ys) := by simpa using hy
        rw [(List.cons.inj hy').2]
        simp
      subst hd
      exact absurd hmem (by decide)

theorem eq_of_append_cellEnd {s₁ s₂ r₁ r₂ : List Char} (h₁ : ¬ "</td>".toList.IsInfix s₁)
    (h₂ : ¬ "</td>".toList.IsInfix s₂)
    (h : s₁ ++ ("</td>".toList ++ r₁) = s₂ ++ ("</td>".toList ++ r₂)) :
    s₁ = s₂ ∧ r₁ = r₂ := by
  rcases List.append_eq_append_iff.1 h with ⟨a, rfl, ha⟩ | ⟨a, rfl, ha⟩
  · by_cases hn : a = []
    · subst hn
      simpa using ha
    · exact absurd
        ((prefix_of_cellEnd_eq hn ha).isInfix.trans (List.suffix_append _ _).isInfix) h₂
  · by_cases hn : a = []
    · subst hn
      simpa using ha.symm
    · exact absurd
        ((prefix_of_cellEnd_eq hn ha).isInfix.trans (List.suffix_append _ _).isInfix) h₁

theorem rowChars_ne_nil (f : Finding) : rowChars f ≠ [] := by
  unfold rowChars
  exact List.append_ne_nil_of_right_ne_nil _ (by decide)

theorem rowsChars_cons (f : Finding) (rest : List Finding) :
    rowsChars (f :: rest) = rowChars f ++ if rest = [] then [] else '\n' :: rowsChars rest := by
  cases rest with
  | nil => rw [if_pos rfl, List.append_nil]; rfl
  | cons g rest => rw [if_neg (List.cons_ne_nil g rest)]; rfl

theorem rowChars_append_inj {f g : Finding} {r₁ r₂ : List Char} (hf : CellSafe f)
    (hg : CellSafe g) (h : rowChars f ++ r₁ = rowChars g ++ r₂) :
    rowFields f = rowFields g ∧ r₁ = r₂ := by
  -- after the common opening, each cell ends at the first `</td>` after its start
  unfold rowChars at h
  simp only [List.append_assoc, List.append_cancel_left_eq] at h
  obtain ⟨hseverity, h⟩ := eq_of_append_cellEnd (not_isInfix_of_cellSafe hf (by simp))
    (not_isInfix_of_cellSafe hg (by simp)) h
  simp only [List.append_cancel_left_eq] at h
  obtain ⟨hrule, h⟩ := eq_of_append_cellEnd (not_isInfix_of_cellSafe hf (by simp))
    (not_isInfix_of_cellSafe hg (by simp)) h
  simp only [List.append_cancel_left_eq] at h
  obtain ⟨hlocation, h⟩ := eq_of_append_cellEnd (not_isInfix_of_cellSafe hf (by simp))
    (not_isInfix_of_cellSafe hg (by simp)) h
  simp only [List.append_cancel_left_eq] at h
  obtain ⟨hmessage, h⟩ := eq_of_append_cellEnd (not_isInfix_of_cellSafe hf (by simp))
    (not_isInfix_of_cellSafe hg (by simp)) h
  simp only [List.append_cancel_left_eq] at h
  refine ⟨?_, h⟩
  simp only [rowFields, String.toList_inj.1 hseverity, String.toList_inj.1 hrule,
    String.toList_inj.1 hlocation, String.toList_inj.1 hmessage]

theorem rowsChars_inj : ∀ {fs gs : List Finding}, (∀ f ∈ fs, CellSafe f) →
    (∀ g ∈ gs, CellSafe g) → rowsChars fs = rowsChars gs →
      fs.map rowFields = gs.map rowFields
  | [], [], _, _, _ => rfl
  | [], g :: gs, _, _, h => by
    rw [rowsChars_cons] at h
    have h' : rowChars g ++ _ = [] := h.symm
    exact absurd (List.append_eq_nil_iff.1 h').1 (rowChars_ne_nil g)
  | f :: fs, [], _, _, h => by
    rw [rowsChars_cons] at h
    have h' : rowChars f ++ _ = [] := h
    exact absurd (List.append_eq_nil_iff.1 h').1 (rowChars_ne_nil f)
  | f :: fs, g :: gs, hfs, hgs, h => by
    rw [rowsChars_cons, rowsChars_cons] at h
    obtain ⟨hrow, hrest⟩ :=
      rowChars_append_inj (hfs f List.mem_cons_self) (hgs g List.mem_cons_self) h
    rw [List.map_cons, List.map_cons, hrow]
    congr 1
    -- the rows after the first: none on both sides, or a line feed and rows on both
    by_cases hf : fs = [] <;> by_cases hg : gs = [] <;> simp only [hf, hg, if_true, if_false,
      reduceCtorEq] at hrest
    · subst hf hg
      rfl
    · exact rowsChars_inj (fun x hx => hfs x (List.mem_cons_of_mem f hx))
        (fun x hx => hgs x (List.mem_cons_of_mem g hx)) (List.cons.inj hrest).2

theorem rowsChars_congr : ∀ {fs gs : List Finding}, fs.map rowFields = gs.map rowFields →
    rowsChars fs = rowsChars gs
  | [], [], _ => rfl
  | [], _ :: _, h => absurd h (List.cons_ne_nil _ _).symm
  | _ :: _, [], h => absurd h (List.cons_ne_nil _ _)
  | f :: fs, g :: gs, h => by
    obtain ⟨hrow, hrest⟩ := List.cons.inj h
    simp only [rowFields, Prod.mk.injEq] at hrow
    have hhead : rowChars f = rowChars g := by
      unfold rowChars
      rw [hrow.1, hrow.2.1, hrow.2.2.1, hrow.2.2.2]
    rw [rowsChars_cons, rowsChars_cons, hhead, rowsChars_congr hrest]
    -- both reports go on after this row, or both end with it
    cases fs <;> cases gs
    · rfl
    · exact absurd hrest (List.cons_ne_nil _ _).symm
    · exact absurd hrest (List.cons_ne_nil _ _)
    · simp only [reduceCtorEq, if_false]

/-- Where no field of a finding holds `</td>`, two reports give the same HTML page exactly when
their findings have the same severities, rule codes, locations and messages, in the same order. -/
theorem html_eq_iff_rowFields {fs gs : List Finding} (hfs : ∀ f ∈ fs, CellSafe f)
    (hgs : ∀ g ∈ gs, CellSafe g) :
    html fs = html gs ↔ fs.map rowFields = gs.map rowFields := by
  rw [← String.toList_inj, html_toList, html_toList, List.append_cancel_right_eq,
    List.append_cancel_left_eq]
  exact ⟨rowsChars_inj hfs hgs, rowsChars_congr⟩

/-- A location holding `</td>` moves text into the message cell: two reports whose findings
differ in location and message give the same page. -/
theorem html_location_into_message :
    html [{ message := "c", rating := .level .warning, rule := some "R",
            file := some "a</td>\n<td>b" }] =
      html [{ message := "b</td>\n<td>c", rating := .level .warning, rule := some "R",
              file := some "a" }] ∧
    [({ message := "c", rating := .level .warning, rule := some "R",
        file := some "a</td>\n<td>b" } : Finding)].map rowFields ≠
      [({ message := "b</td>\n<td>c", rating := .level .warning, rule := some "R",
          file := some "a" } : Finding)].map rowFields := by
  constructor
  · rw [← String.toList_inj]
    simp [html, Finding.location, String.toList_append]
  · simp [rowFields, Finding.location]

theorem html_eq_iff_rowFields_markup :
    (∀ f ∈ [({ message := "Use <td> here, not </tr>", rating := .level .error,
               rule := some "FMT004", file := some "a.adoc" } : Finding)], CellSafe f) ∧
    (∀ g ∈ [({ message := "Use <td> here", rating := .level .error, rule := some "FMT004",
               file := some "a.adoc" } : Finding)], CellSafe g) ∧
    (html [{ message := "Use <td> here, not </tr>", rating := .level .error,
             rule := some "FMT004", file := some "a.adoc" }] =
        html [{ message := "Use <td> here", rating := .level .error, rule := some "FMT004",
                file := some "a.adoc" }] ↔
      [({ message := "Use <td> here, not </tr>", rating := .level .error,
          rule := some "FMT004", file := some "a.adoc" } : Finding)].map rowFields =
        [({ message := "Use <td> here", rating := .level .error, rule := some "FMT004",
            file := some "a.adoc" } : Finding)].map rowFields) :=
  ⟨by decide, by decide, html_eq_iff_rowFields (by decide) (by decide)⟩

end AdocLint.Report
