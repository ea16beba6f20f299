import AdocLint.Rule.Check

/-! Every finding a checker reports carries its rule's code, and checking lines never stops on a
fault. -/

namespace AdocLint

def Names (code : String) (fs : List Finding) : Prop := ∀ f ∈ fs, f.rule = some code

section Names

variable {code : String} {f : Finding} {fs gs : List Finding}

@[simp] theorem names_nil : Names code [] := by simp [Names]

@[simp] theorem names_cons : Names code (f :: fs) ↔ f.rule = some code ∧ Names code fs := by
  simp [Names]

@[simp] theorem names_append : Names code (fs ++ gs) ↔ Names code fs ∧ Names code gs := by
  simp [Names, or_imp, forall_and]

theorem names_flatMap {α : Type} {xs : List α} {F : α → List Finding}
    (h : ∀ x ∈ xs, Names code (F x)) : Names code (xs.flatMap F) := by
  intro f hf
  obtain ⟨x, hx, hf⟩ := List.mem_flatMap.1 hf
  exact h x hx f hf

theorem names_map {α : Type} {xs : List α} {F : α → Finding} (h : ∀ x ∈ xs, (F x).rule = some code) :
    Names code (xs.map F) := by
  intro f hf
  obtain ⟨x, hx, rfl⟩ := List.mem_map.1 hf
  exact h x hx

theorem bind_eq_ok {α β : Type} {x : Except Fault α} {k : α → Except Fault β} {b : β}
    (h : x >>= k = .ok b) : ∃ a, x = .ok a ∧ k a = .ok b := by
  cases x with
  | error e => cases h
  | ok a => exact ⟨a, rfl, h⟩

theorem map_eq_ok {α β : Type} {x : Except Fault α} {k : α → β} {b : β}
    (h : x.map k = .ok b) : ∃ a, x = .ok a ∧ k a = b := by
  cases x with
  | error e => cases h
  | ok a =>
    cases h
    exact ⟨a, rfl, rfl⟩

@[simp] theorem atLine_rule {s : Severity} {n : Nat} {m : String} {v : Value} :
    (Finding.atLine code s n m v).rule = some code := rfl

end Names

namespace Headings

theorem formatLine_names (i : Nat) (s : String) : Names "HEAD002" (formatLine i s) := by
  unfold formatLine
  split
  · exact names_nil
  · rw [names_append]
    constructor
    · split <;> simp
    · split
      · split <;> simp
      · exact names_nil

theorem formatFindings_names (lines : List Entry) : Names "HEAD002" (formatFindings lines) := by
  apply names_flatMap
  rintro ⟨e, i⟩ -
  cases e with
  | line s => exact formatLine_names i s
  | absent => exact names_nil
  | heading h => exact names_nil
  | numbered _ _ => exact names_nil

theorem hierarchyFrom_names :
    ∀ (current : Nat) (hs : List (Nat × Nat × String)), Names "HEAD001" (hierarchyFrom current hs)
  | _, [] => names_nil
  | current, (level, i, line) :: rest => by
    rw [hierarchyFrom, names_append]
    refine ⟨?_, hierarchyFrom_names level rest⟩
    split <;> simp

theorem hierarchyFindings_names (lines : List Entry) :
    Names "HEAD001" (hierarchyFindings lines) := by
  unfold hierarchyFindings
  split
  · exact names_nil
  · exact hierarchyFrom_names _ _

theorem topLevelFindings_names (lines : List Entry) :
    Names "HEAD003" (topLevelFindings lines) := by
  unfold topLevelFindings
  dsimp only
  split
  · exact names_nil
  · exact names_map fun _ _ => rfl

end Headings

namespace Blocks

theorem unterminatedFrom_names :
    ∀ (opened : List String) (i : Nat) (lines : List Entry) (fs : List Finding),
      unterminatedFrom opened i lines = .ok fs → Names "BLOCK001" fs
  | _, _, [], fs, h => by
    cases h
    exact names_nil
  | opened, i, .line s :: rest, fs, h => by
    rw [unterminatedFrom] at h
    split at h
    · exact unterminatedFrom_names _ _ _ _ h
    · split at h
      · exact unterminatedFrom_names _ _ _ _ h
      · obtain ⟨closed, -, h⟩ := bind_eq_ok h
        obtain ⟨later, hl, h⟩ := bind_eq_ok h
        cases h
        rw [names_append]
        exact ⟨by split <;> simp, unterminatedFrom_names _ _ _ _ hl⟩
  | opened, i, .absent :: rest, fs, h => unterminatedFrom_names opened (i + 1) rest fs h
  | opened, i, .heading _ :: rest, fs, h => unterminatedFrom_names opened (i + 1) rest fs h
  | opened, i, .numbered _ _ :: rest, fs, h => unterminatedFrom_names opened (i + 1) rest fs h

theorem spacingFrom_names :
    ∀ (opened : List String) (prev : Option Entry) (i : Nat) (lines : List Entry)
      (fs : List Finding), spacingFrom opened prev i lines = .ok fs → Names "BLOCK002" fs
  | _, _, _, [], fs, h => by
    cases h
    exact names_nil
  | opened, _, i, .absent :: rest, fs, h => spacingFrom_names opened _ (i + 1) rest fs h
  | opened, _, i, .heading _ :: rest, fs, h => spacingFrom_names opened _ (i + 1) rest fs h
  | opened, _, i, .numbered _ _ :: rest, fs, h => spacingFrom_names opened _ (i + 1) rest fs h
  | opened, prev, i, .line s :: rest, fs, h => by
    rw [spacingFrom] at h
    dsimp only at h
    split at h
    · exact spacingFrom_names _ _ _ _ _ h
    · -- a closing delimiter looks at the next entry, an opening one at the entry before
      split at h
      · split at h
        · obtain ⟨t, -, h⟩ := bind_eq_ok h
          obtain ⟨here, hh, h⟩ := bind_eq_ok h
          obtain ⟨later, hl, h⟩ := bind_eq_ok h
          cases hh
          cases h
          rw [names_append]
          exact ⟨by split <;> simp, spacingFrom_names _ _ _ _ _ hl⟩
        · obtain ⟨here, hh, h⟩ := bind_eq_ok h
          obtain ⟨later, hl, h⟩ := bind_eq_ok h
          cases hh
          cases h
          simpa using spacingFrom_names _ _ _ _ _ hl
      · split at h
        · obtain ⟨t, -, h⟩ := bind_eq_ok h
          obtain ⟨here, hh, h⟩ := bind_eq_ok h
          obtain ⟨later, hl, h⟩ := bind_eq_ok h
          cases hh
          cases h
          rw [names_append]
          exact ⟨by split <;> simp, spacingFrom_names _ _ _ _ _ hl⟩
        · obtain ⟨here, hh, h⟩ := bind_eq_ok h
          obtain ⟨later, hl, h⟩ := bind_eq_ok h
          cases hh
          cases h
          simpa using spacingFrom_names _ _ _ _ _ hl

end Blocks

namespace Spacing

theorem lineFindings_names {sev : Severity} {texts : Array String} {byPosition : Bool} {i : Nat}
    {content : String} {run : Nat} {fs : List Finding}
    (h : (lineFindings sev texts byPosition i content run).1 = .ok fs) : Names "WS001" fs := by
  obtain ⟨ms, -, rfl⟩ := map_eq_ok h
  exact names_map fun _ _ => rfl

theorem scanFrom_names (sev : Severity) (texts : Array String) (byPosition : Bool) :
    ∀ (i run : Nat) (lines : List String) (fs : List Finding),
      (scanFrom sev texts byPosition i run lines).1 = .ok fs → Names "WS001" fs
  | _, _, [], fs, h => by
    cases h
    exact names_nil
  | i, run, s :: rest, fs, h => by
    rw [scanFrom] at h
    split at h
    · cases h
    · rename_i here run' hline
      obtain ⟨later, hl, rfl⟩ := map_eq_ok h
      rw [names_append]
      exact ⟨lineFindings_names (congrArg Prod.fst hline),
        scanFrom_names sev texts byPosition _ _ rest later hl⟩

theorem findings_names {sev : Severity} {doc : Document} {run : Nat} {fs : List Finding}
    (h : (findings sev doc run).1 = .ok fs) : Names "WS001" fs :=
  scanFrom_names _ _ _ _ _ _ _ h

end Spacing

theorem Images.findings_names (sev : Severity) (isFile : String → Bool) (doc : Document) :
    Names "IMG001" (Images.findings sev isFile doc) :=
  names_flatMap fun _ _ => names_map fun _ _ => rfl

theorem Verbatim.scan_names {check : Nat → String → List Finding} {lines : List String}
    (h : ∀ i s, Names code (check i s)) : Names code (Verbatim.scan check lines) :=
  names_flatMap fun _ _ => h _ _

theorem Rule.lineCheck_names (r : Rule) (sev : Severity) (i : Nat) (line : String) :
    Names r.code (r.lineCheck sev i line) := by
  cases r
  case markdownSyntax =>
    simp only [Rule.lineCheck, Markdown.lineFindings]
    split
    · exact names_nil
    · exact names_map fun _ _ => rfl
  case numberedList | definitionList | counterInTitle =>
    simp only [Rule.lineCheck, Lists.numberedLineFindings, Lists.definitionLineFindings,
      Counters.lineFindings]
    split
    · exact names_nil
    · split <;> simp [Rule.code]
  all_goals exact names_nil

theorem MarkdownTables.findings_names (sev : Severity) (lines : List String) :
    Names "FMT005" (MarkdownTables.findings sev lines) := by
  simp only [MarkdownTables.findings, names_append]
  exact ⟨names_map fun _ _ => rfl, names_map fun _ _ => rfl⟩

namespace Tables

@[simp] theorem tableFinding_rule {code : String} {sev : Severity} {i : Nat} {m s : String} :
    (tableFinding code sev i m s).rule = some code := rfl

theorem misaligned_names :
    ∀ (first : Option (List Nat)) (t : Table), Names "TABLE001" (misaligned first t)
  | _, [] => names_nil
  | first, (i, s) :: rest => by
    rw [misaligned]
    split
    · exact misaligned_names first rest
    · dsimp only
      split
      · exact misaligned_names first rest
      · split
        · split
          · simp
          · exact misaligned_names _ rest
        · exact misaligned_names _ rest

theorem headerFindings_names (t : Table) : Names "TABLE001" (headerFindings t) := by
  unfold headerFindings
  split
  · dsimp only
    split
    · split
      · split
        · exact names_nil
        · simp
      · exact names_nil
    · exact names_nil
  · exact names_nil

theorem formatFindings_names {entries : List Entry} {fs : List Finding}
    (h : formatFindings entries = .ok fs) : Names "TABLE001" fs := by
  obtain ⟨tables, -, h⟩ := bind_eq_ok h
  cases h
  exact names_flatMap fun t _ => names_append.2 ⟨misaligned_names _ _, headerFindings_names t⟩

theorem columnFindings_names :
    ∀ (expected : Option Nat) (t : Table), Names "TABLE002" (columnFindings expected t)
  | _, [] => names_nil
  | expected, (i, s) :: rest => by
    rw [columnFindings]
    dsimp only
    split
    · split
      · exact columnFindings_names _ rest
      · rw [names_append]
        refine ⟨?_, columnFindings_names _ rest⟩
        split <;> simp
    · exact columnFindings_names _ rest

theorem structureOf_names (t : Table) : Names "TABLE002" (structureOf t) := by
  rw [structureOf, names_append]
  refine ⟨columnFindings_names _ _, ?_⟩
  split
  · exact names_nil
  · split <;> simp

theorem structureFindings_names {entries : List Entry} {fs : List Finding}
    (h : structureFindings entries = .ok fs) : Names "TABLE002" fs := by
  obtain ⟨tables, -, h⟩ := bind_eq_ok h
  cases h
  exact names_flatMap fun t _ => structureOf_names t

theorem contentFindings_names {entries : List Entry} {fs : List Finding}
    (h : contentFindings entries = .ok fs) : Names "TABLE003" fs := by
  obtain ⟨tables, -, h⟩ := bind_eq_ok h
  cases h
  intro f hf
  obtain ⟨t, -, ht⟩ := List.mem_filterMap.1 hf
  obtain ⟨⟨i, s⟩, -, hx⟩ := List.exists_of_findSome?_eq_some ht
  dsimp only at hx
  split at hx
  · cases hx
  · cases hx
    rfl

end Tables

theorem Checker.check_names (c : Checker) (isFile : String → Bool) (doc : Document)
    {fs : List Finding} (h : (c.check isFile doc).1 = .ok fs) : Names c.rule.code fs := by
  unfold Checker.check at h
  cases hr : c.rule with
  | headingFormat =>
    simp only [hr] at h
    obtain ⟨xs, -, rfl⟩ := map_eq_ok h
    exact Headings.formatFindings_names xs
  | headingHierarchy =>
    simp only [hr] at h
    obtain ⟨xs, -, rfl⟩ := map_eq_ok h
    exact Headings.hierarchyFindings_names xs
  | singleTopHeading =>
    simp only [hr] at h
    obtain ⟨xs, -, rfl⟩ := map_eq_ok h
    exact Headings.topLevelFindings_names xs
  | unterminatedBlock =>
    simp only [hr] at h
    obtain ⟨xs, -, h⟩ := bind_eq_ok h
    exact Blocks.unterminatedFrom_names _ _ _ _ h
  | blockSpacing =>
    simp only [hr] at h
    obtain ⟨xs, -, h⟩ := bind_eq_ok h
    exact Blocks.spacingFrom_names _ _ _ _ _ h
  | whitespace =>
    simp only [hr] at h
    split at h
    · exact Spacing.findings_names h
    · cases h
      exact names_nil
  | imageAttributes =>
    simp only [hr] at h
    cases h
    exact Images.findings_names _ _ _
  | markdownSyntax | numberedList | definitionList | counterInTitle =>
    simp only [hr] at h
    split at h <;> cases h
    · exact Verbatim.scan_names fun i s => Rule.lineCheck_names _ _ i s
    · exact names_nil
  | markdownTable =>
    simp only [hr] at h
    split at h <;> cases h
    · exact MarkdownTables.findings_names _ _
    · exact names_nil
  | tableFormat =>
    simp only [hr] at h
    obtain ⟨xs, -, h⟩ := bind_eq_ok h
    exact Tables.formatFindings_names h
  | tableStructure =>
    simp only [hr] at h
    obtain ⟨xs, -, h⟩ := bind_eq_ok h
    exact Tables.structureFindings_names h
  | tableContent =>
    simp only [hr] at h
    obtain ⟨xs, -, h⟩ := bind_eq_ok h
    exact Tables.contentFindings_names h
  | generic =>
    simp only [hr] at h
    cases h

end AdocLint
