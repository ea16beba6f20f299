import AdocLint.Proofs.RuleCodes
import AdocLint.Linter

/-! In a lint the heading and block rules get the headings, which they pass over, and the image rule
reads only the heading lines. -/

namespace AdocLint

namespace Headings

variable (hs : List Heading)

theorem filterMap_headings {β : Type} (f : Entry × Nat → Option β)
    (hf : ∀ h i, f (.heading h, i) = none) : (hs.map .heading).zipIdx.filterMap f = [] := by
  apply List.filterMap_eq_nil_iff.2
  rintro ⟨e, i⟩ he
  obtain ⟨h, -, rfl⟩ := List.mem_map.1 (List.fst_mem_of_mem_zipIdx he)
  exact hf h i

theorem formatFindings_headings : formatFindings (hs.map .heading) = [] := by
  apply List.flatMap_eq_nil_iff.2
  rintro ⟨e, i⟩ he
  obtain ⟨h, -, rfl⟩ := List.mem_map.1 (List.fst_mem_of_mem_zipIdx he)
  rfl

theorem hierarchyFindings_headings : hierarchyFindings (hs.map .heading) = [] := by
  have hl : leveled (hs.map .heading) = [] := filterMap_headings hs _ fun _ _ => rfl
  simp [hierarchyFindings, hl]

theorem topLevelFindings_headings : topLevelFindings (hs.map .heading) = [] := by
  unfold topLevelFindings
  dsimp only
  rw [filterMap_headings]
  intro h i
  rfl

end Headings

namespace Blocks

theorem unterminatedFrom_headings (opened : List String) :
    ∀ (i : Nat) (hs : List Heading), unterminatedFrom opened i (hs.map .heading) = .ok []
  | _, [] => rfl
  | i, _ :: hs => unterminatedFrom_headings opened (i + 1) hs

theorem spacingFrom_headings (opened : List String) :
    ∀ (prev : Option Entry) (i : Nat) (hs : List Heading),
      spacingFrom opened prev i (hs.map .heading) = .ok []
  | _, _, [] => rfl
  | _, i, h :: hs => spacingFrom_headings opened (some (.heading h)) (i + 1) hs

theorem closedLater_lines (d : String) :
    ∀ ls : List String, closedLater d (ls.map .line) = .ok (ls.any (Text.trim · == d))
  | [] => rfl
  | s :: rest => by
    simp only [List.map_cons, closedLater, Entry.trimmed, bind, Except.bind, List.any_cons]
    by_cases hs : (Text.trim s == d) = true
    · simp [hs]
      rfl
    · simp only [hs, Bool.false_or]
      exact closedLater_lines d rest

theorem unterminatedFrom_lines :
    ∀ (opened : List String) (i : Nat) (ls : List String),
      ∃ fs, unterminatedFrom opened i (ls.map .line) = .ok fs
  | _, _, [] => ⟨[], rfl⟩
  | opened, i, s :: rest => by
    simp only [List.map_cons, unterminatedFrom]
    split
    · exact unterminatedFrom_lines opened (i + 1) rest
    · split
      · exact unterminatedFrom_lines _ (i + 1) rest
      · obtain ⟨later, hl⟩ := unterminatedFrom_lines (Text.trim s :: opened) (i + 1) rest
        rw [closedLater_lines, hl]
        exact ⟨_, rfl⟩

theorem spacingFrom_lines :
    ∀ (opened : List String) (prev : Option String) (i : Nat) (ls : List String),
      ∃ fs, spacingFrom opened (prev.map .line) i (ls.map .line) = .ok fs
  | _, _, _, [] => ⟨[], rfl⟩
  | opened, prev, i, s :: rest => by
    simp only [List.map_cons, spacingFrom]
    split
    · exact spacingFrom_lines opened (some s) (i + 1) rest
    · split
      · obtain ⟨later, hl⟩ := spacingFrom_lines (opened.erase (Text.trim s)) (some s) (i + 1) rest
        rw [Option.map_some] at hl
        cases rest with
        | nil =>
          simp only [List.map_nil, bind, Except.bind] at hl ⊢
          simp only [hl]
          exact ⟨_, rfl⟩
        | cons n rest' =>
          simp only [List.map_cons, Entry.trimmed, bind, Except.bind] at hl ⊢
          simp only [hl]
          exact ⟨_, rfl⟩
      · obtain ⟨later, hl⟩ := spacingFrom_lines (Text.trim s :: opened) (some s) (i + 1) rest
        rw [Option.map_some] at hl
        cases prev with
        | none =>
          simp only [Option.map_none, bind, Except.bind, hl]
          exact ⟨_, rfl⟩
        | some p =>
          simp only [Option.map_some, Entry.trimmed, bind, Except.bind, hl]
          exact ⟨_, rfl⟩

end Blocks

namespace Linter

def ruleFindings (code : String) (fs : List Finding) : List Finding :=
  fs.filter (·.rule == some code)

theorem findingsOf_names (c : Checker) (isFile : String → Bool) (doc : Document) :
    Names c.rule.code (findingsOf (c.check isFile doc).1) := by
  unfold findingsOf
  split
  · exact c.check_names isFile doc ‹_›
  · exact names_nil

theorem ruleFindings_of_names {code code' : String} {fs : List Finding} (h : Names code' fs) :
    ruleFindings code fs = if code' = code then fs else [] := by
  unfold ruleFindings
  split
  next heq =>
    subst heq
    exact List.filter_eq_self.2 fun f hf => by simp [h f hf]
  next hne =>
    refine List.filter_eq_nil_iff.2 fun f hf => ?_
    simp [h f hf, hne]

theorem runFrom_fst (isFile : String → Bool) (lines heads : Document) :
    ∀ cs : List Checker, (runFrom isFile lines heads cs).1 =
      cs.flatMap fun c => findingsOf (c.check isFile (if c.walksEntries then lines else heads)).1
  | [] => rfl
  | c :: cs => by
    rw [runFrom, List.flatMap_cons, ← runFrom_fst isFile lines heads cs]

theorem ruleFindings_runFrom (isFile : String → Bool) (lines heads : Document) (code : String)
    (cs : List Checker) : ruleFindings code (runFrom isFile lines heads cs).1 =
      (cs.filter (·.rule.code == code)).flatMap
        fun c => findingsOf (c.check isFile (if c.walksEntries then lines else heads)).1 := by
  rw [runFrom_fst, ruleFindings, List.filter_flatMap]
  induction cs with
  | nil => rfl
  | cons c cs ih =>
    rw [List.flatMap_cons, ← ruleFindings, ruleFindings_of_names (findingsOf_names _ _ _), ih]
    by_cases hc : c.rule.code = code <;> simp [hc]

theorem lintText_fst (l : Linter) (isFile : String → Bool) (text : String) :
    (l.lintText isFile text).1 = (runFrom isFile (.entries ((Text.lines text).map .line))
      (.entries ((Outline.headings text).map .heading)) l.checkers).1 := rfl

theorem lintRules_filter_code : ∀ r ∈ lintRules, lintRules.filter (·.code == r.code) = [r] := by
  decide

theorem ruleFindings_initial {r : Rule} (hr : r ∈ lintRules) (isFile : String → Bool)
    (text : String) : ruleFindings r.code (initial.lintText isFile text).1 =
      findingsOf ((Checker.ofRule r).check isFile (if (Checker.ofRule r).walksEntries
        then .entries ((Text.lines text).map .line)
        else .entries ((Outline.headings text).map .heading))).1 := by
  rw [lintText_fst, ruleFindings_runFrom]
  have hf : initial.checkers.filter (·.rule.code == r.code) = [Checker.ofRule r] := by
    rw [initial, List.filter_map]
    exact congrArg (List.map Checker.ofRule) (lintRules_filter_code r hr)
  rw [hf, List.flatMap_singleton]

theorem check_headings {r : Rule} (hr : r ∈ [Rule.headingFormat, .headingHierarchy,
    .singleTopHeading, .unterminatedBlock, .blockSpacing]) (isFile : String → Bool)
    (hs : List Heading) : ((Checker.ofRule r).check isFile (.entries (hs.map .heading))).1 = .ok [] := by
  simp only [List.mem_cons, List.not_mem_nil, or_false] at hr
  rcases hr with rfl | rfl | rfl | rfl | rfl
  · exact congrArg Except.ok (Headings.formatFindings_headings hs)
  · exact congrArg Except.ok (Headings.hierarchyFindings_headings hs)
  · exact congrArg Except.ok (Headings.topLevelFindings_headings hs)
  · exact Blocks.unterminatedFrom_headings [] 0 hs
  · exact Blocks.spacingFrom_headings [] none 0 hs

theorem check_lines {r : Rule} (hr : r ∈ [Rule.headingFormat, .headingHierarchy,
    .singleTopHeading, .unterminatedBlock, .blockSpacing]) (isFile : String → Bool)
    (ls : List String) : ∃ fs, ((Checker.ofRule r).check isFile (.entries (ls.map .line))).1 = .ok fs := by
  simp only [List.mem_cons, List.not_mem_nil, or_false] at hr
  rcases hr with rfl | rfl | rfl | rfl | rfl
  · exact ⟨_, rfl⟩
  · exact ⟨_, rfl⟩
  · exact ⟨_, rfl⟩
  · exact Blocks.unterminatedFrom_lines [] 0 ls
  · exact Blocks.spacingFrom_lines [] none 0 ls

/-- What a lint reports for the heading, block and image rules: the five heading and block rules
report nothing, whatever their check of the text's lines finds, and the image rule reports what it
finds in the heading lines, each numbered by its rank among the headings. -/
theorem lintText_rule_findings (isFile : String → Bool) (text : String) :
    (∀ r ∈ [Rule.headingFormat, .headingHierarchy, .singleTopHeading, .unterminatedBlock,
        .blockSpacing],
      ∃ fs, ((Checker.ofRule r).check isFile (.entries ((Text.lines text).map .line))).1 = .ok fs ∧
        ruleFindings r.code (initial.lintText isFile text).1 = [] ∧
        (ruleFindings r.code (initial.lintText isFile text).1 = fs ↔ fs = [])) ∧
    ruleFindings Rule.imageAttributes.code (initial.lintText isFile text).1 =
      (Outline.headings text).zipIdx.flatMap fun (h, i) =>
        Images.lineFindings .warning isFile i h.content := by
  constructor
  · intro r hr
    have hlint : ruleFindings r.code (initial.lintText isFile text).1 = [] := by
      -- each of the five rules is linted, and over the headings
      have ⟨hmem, hwalk⟩ : r ∈ lintRules ∧ (Checker.ofRule r).walksEntries = false := by
        simp only [List.mem_cons, List.not_mem_nil, or_false] at hr
        rcases hr with rfl | rfl | rfl | rfl | rfl <;> exact ⟨by decide, rfl⟩
      rw [ruleFindings_initial hmem, hwalk, if_neg Bool.false_ne_true, check_headings hr]
      rfl
    obtain ⟨fs, hfs⟩ := check_lines hr isFile (Text.lines text)
    refine ⟨fs, hfs, hlint, ?_⟩
    rw [hlint, eq_comm]
  · rw [ruleFindings_initial (by decide)]
    simp [Checker.check, Checker.walksEntries, Checker.ofRule, findingsOf, Images.findings,
      Document.scanEntries, List.zipIdx_map, List.flatMap_map, Entry.text, Rule.defaultSeverity]

theorem lintText_rule_findings_skipped_level :
    ∃ fs, ((Checker.ofRule .headingHierarchy).check (fun _ => false)
        (.entries ((Text.lines "= A\n\n=== C").map .line))).1 = .ok fs ∧ fs ≠ [] ∧
      ruleFindings Rule.headingHierarchy.code
        (initial.lintText (fun _ => false) "= A\n\n=== C").1 = [] := by
  obtain ⟨fs, hfs, hlint, -⟩ := (lintText_rule_findings (fun _ => false) "= A\n\n=== C").1
    .headingHierarchy (by simp)
  refine ⟨fs, hfs, ?_, hlint⟩
  rintro rfl
  have hlen : ((Checker.ofRule .headingHierarchy).check (fun _ => false)
      (.entries ((Text.lines "= A\n\n=== C").map .line))).1.toOption.map List.length = some 1 := by
    decide +kernel
  rw [hfs] at hlen
  cases hlen

end Linter

end AdocLint
