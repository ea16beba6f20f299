import AdocLint.Proofs.LintFindings
import AdocLint.Proofs.Configuration

/-! A rule whose entry names a severity lints at it, unless it follows a dropped rule, but for the
image rule's note on a short alternative text. -/

namespace AdocLint.Linter

variable {g : Graph} {cfg : Value}

theorem verdict_rule {k k' : Checker} (h : verdict g cfg k = .ok (some k')) : k'.rule = k.rule := by
  unfold verdict at h
  cases hd : directive g cfg k.rule.code with
  | error e => simp [hd, Except.map] at h
  | ok d =>
    simp only [hd, Except.map, Except.ok.injEq] at h
    exact apply_rule h

theorem mem_configureFrom : ∀ {cs : List Checker}, (configureFrom g cfg [] cs).2 = none →
    ∀ k' ∈ (configureFrom g cfg [] cs).1, ∃ k ∈ cs, verdict g cfg k = .ok (some k') ∨
      (k' = k ∧ ∃ pre p post, cs = pre ++ p :: k :: post ∧ verdict g cfg p = .ok none)
  | [], _ => by simp [configureFrom]
  | c :: rest, h => by
    intro k' hk'
    cases hv : verdict g cfg c with
    | error e => simp [configureFrom_of_error hv] at h
    | ok v =>
      cases v with
      | none =>
        cases rest with
        | nil => simp [configureFrom_of_none_last hv] at hk'
        | cons n rest' =>
          rw [configureFrom_of_none hv] at h hk'
          rcases List.mem_cons.1 hk' with rfl | hk'
          · -- the rule after the dropped one is passed over
            exact ⟨k', by simp, .inr ⟨rfl, [], c, rest', rfl, hv⟩⟩
          · obtain ⟨k, hk, hverdict | ⟨rfl, pre, p, post, hsplit, hp⟩⟩ := mem_configureFrom h k' hk'
            · exact ⟨k, by simp [hk], .inl hverdict⟩
            · exact ⟨k', by simp [hk], .inr ⟨rfl, c :: n :: pre, p, post, by simp [hsplit], hp⟩⟩
      | some c' =>
        rw [configureFrom_of_some hv] at h hk'
        rcases List.mem_cons.1 hk' with rfl | hk'
        · exact ⟨c, by simp, .inl hv⟩
        · obtain ⟨k, hk, hverdict | ⟨rfl, pre, p, post, hsplit, hp⟩⟩ := mem_configureFrom h k' hk'
          · exact ⟨k, by simp [hk], .inl hverdict⟩
          · exact ⟨k', by simp [hk], .inr ⟨rfl, c :: pre, p, post, by simp [hsplit], hp⟩⟩

theorem mem_zip_tail {α : Type} (a b : α) (post : List α) :
    ∀ pre : List α, (a, b) ∈ (pre ++ a :: b :: post).zip (pre ++ a :: b :: post).tail
  | [] => by simp
  | x :: pre => by
    have ih := mem_zip_tail a b post pre
    cases pre with
    | nil => simp
    | cons y pre => exact List.mem_cons_of_mem _ ih

theorem configure_initial {l : Linter} (hc : initial.configure g = (l, none)) :
    configureFrom g (rulesEntry g) [] initial.checkers = (l.checkers, none) :=
  configureFrom_of_configure hc rfl

theorem mem_configure {l : Linter} (hc : initial.configure g = (l, none)) :
    ∀ k ∈ l.checkers, ∃ k0 ∈ initial.checkers, verdict g (rulesEntry g) k0 = .ok (some k) ∨
      (k = k0 ∧ ∃ pre p post, initial.checkers = pre ++ p :: k0 :: post ∧
        verdict g (rulesEntry g) p = .ok none) := by
  intro k hk
  have hcf := configure_initial hc
  have hk' : k ∈ (configureFrom g (rulesEntry g) [] initial.checkers).1 := by
    rw [hcf]
    exact hk
  exact mem_configureFrom (by rw [hcf]) k hk'

theorem configure_rules {l : Linter} (hc : initial.configure g = (l, none)) :
    ∀ k ∈ l.checkers, k.rule ∈ lintRules := by
  intro k hk
  obtain ⟨k0, hk0, hverdict | ⟨rfl, -⟩⟩ := mem_configure hc k hk
  · obtain ⟨r, hr, rfl⟩ := List.mem_map.1 hk0
    rw [verdict_rule hverdict]
    exact hr
  · obtain ⟨r, hr, rfl⟩ := List.mem_map.1 hk0
    exact hr

theorem configure_severity {l : Linter} (hc : initial.configure g = (l, none)) {R : Rule}
    {s : Severity} (hs : directive g (rulesEntry g) R.code = .ok (.setSeverity s))
    (hprev : ∀ P, (P, R) ∈ lintRules.zip lintRules.tail →
      directive g (rulesEntry g) P.code ≠ .ok .drop) :
    ∀ k ∈ l.checkers, k.rule = R → k.severity = s := by
  intro k hk hkR
  obtain ⟨k0, hk0, hverdict | ⟨rfl, pre, p, post, hsplit, hp⟩⟩ := mem_configure hc k hk
  · obtain ⟨r, -, rfl⟩ := List.mem_map.1 hk0
    have hr : r = R := (verdict_rule hverdict).symm.trans hkR
    subst hr
    simp only [verdict, Checker.ofRule, hs, Except.map, Directive.apply, Except.ok.injEq,
      Option.some.injEq] at hverdict
    rw [← hverdict]
  · -- a passed-over rule comes right after a dropped one, which the hypothesis excludes
    exfalso
    obtain ⟨L1, L2, hL, -, hL2⟩ := List.map_eq_append_iff.1 hsplit
    obtain ⟨a, L3, rfl, rfl, hL3⟩ := List.map_eq_cons_iff.1 hL2
    obtain ⟨b, L4, rfl, hb, -⟩ := List.map_eq_cons_iff.1 hL3
    have hbR : b = R := by
      rw [← hkR, ← hb]
      rfl
    subst hbR
    apply hprev a (hL ▸ mem_zip_tail a b L4 L1)
    exact directive_of_none hp

/-- After a configuration that names severity `s` for rule `R`, and does not drop the rule right
before `R`, every finding of `R` in a lint is rated `s`, except the image rule's note on a short
alternative text, which is informational. -/
theorem lintText_rating_of_entry {l : Linter} (hc : initial.configure g = (l, none)) {R : Rule}
    {s : Severity} (hs : directive g (rulesEntry g) R.code = .ok (.setSeverity s))
    (hprev : ∀ P, (P, R) ∈ lintRules.zip lintRules.tail →
      directive g (rulesEntry g) P.code ≠ .ok .drop)
    (isFile : String → Bool) (text : String) :
    ∀ f ∈ (l.lintText isFile text).1, f.rule = some R.code →
      f.rating = .level s ∨ IsShortAltNote f := by
  intro f hf hR
  obtain ⟨k, hk, hf⟩ := mem_lintText hf
  have hcode : f.rule = some k.rule.code := findingsOf_names k isFile _ f hf
  have hkR : k.rule = R := Rule.eq_of_code_eq (Option.some.inj (hcode.symm.trans hR))
  obtain ⟨-, hrated⟩ := check_in_lint (configure_rules hc k hk) isFile text f hf
  rwa [configure_severity hc hs hprev k hk hkR] at hrated

def imageRuleError : Graph := rulesConfig [("IMG001", [("severity", .str "error")])]

theorem configure_imageRuleError : (initial.configure imageRuleError).2 = none := by
  have hnone : (initial.configure imageRuleError).2.isNone = true := by decide +kernel
  exact Option.isNone_iff_eq_none.1 hnone

/-- The image rule configured to report errors still rates its note on a short alternative text
as information. -/
theorem lintText_short_alt_keeps_info :
    (initial.configure imageRuleError).2 = none ∧
      ((initial.configure imageRuleError).1.checkers.any
        fun k => k.rule == .imageAttributes && k.severity == .error) = true ∧
      ∃ f ∈ ((initial.configure imageRuleError).1.lintText (fun _ => false)
          "= T image:a.png[abc]").1, f.rule = some "IMG001" ∧ f.rating ≠ .level .error := by
  have hinfo : ((initial.configure imageRuleError).1.lintText (fun _ => false)
      "= T image:a.png[abc]").1.any
        (fun f => f.rule == some "IMG001" && f.rating.text == "info") = true := by
    decide +kernel
  obtain ⟨f, hf, hfi⟩ := List.any_eq_true.1 hinfo
  simp only [Bool.and_eq_true, beq_iff_eq] at hfi
  refine ⟨configure_imageRuleError, by decide +kernel, f, hf, hfi.1, ?_⟩
  intro he
  have htext := hfi.2
  rw [he] at htext
  revert htext
  decide

theorem lintText_rating_of_entry_image_error :
    initial.configure imageRuleError = ((initial.configure imageRuleError).1, none) ∧
      directive imageRuleError (rulesEntry imageRuleError) Rule.imageAttributes.code =
        .ok (.setSeverity .error) ∧
      (∀ P, (P, Rule.imageAttributes) ∈ lintRules.zip lintRules.tail →
        directive imageRuleError (rulesEntry imageRuleError) P.code ≠ .ok .drop) ∧
      ∀ f ∈ ((initial.configure imageRuleError).1.lintText (fun _ => false)
          "= T image:a.png[abc]").1, f.rule = some Rule.imageAttributes.code →
        f.rating = .level .error ∨ IsShortAltNote f := by
  have hc : initial.configure imageRuleError = ((initial.configure imageRuleError).1, none) :=
    Prod.ext rfl configure_imageRuleError
  have hs : directive imageRuleError (rulesEntry imageRuleError) Rule.imageAttributes.code =
      .ok (.setSeverity .error) := rfl
  have hprev : ∀ P, (P, Rule.imageAttributes) ∈ lintRules.zip lintRules.tail →
      directive imageRuleError (rulesEntry imageRuleError) P.code ≠ .ok .drop := by
    intro P hP
    -- only the whitespace rule comes right before the image rule, and it has no entry
    have hP : P = .whitespace := by simpa [lintRules] using hP
    subst hP
    have hkeep : directive imageRuleError (rulesEntry imageRuleError) Rule.whitespace.code =
        .ok .keep := rfl
    rw [hkeep]
    intro h
    cases h
  exact ⟨hc, hs, hprev, lintText_rating_of_entry hc hs hprev _ _⟩

end AdocLint.Linter
