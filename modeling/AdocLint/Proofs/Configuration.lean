import AdocLint.Linter
import Mathlib.Data.List.Chain

/-! Configuring the linter: the rule after a dropped one is passed over, so a configuration selects
what it asks only when those rules ask nothing, and a fault keeps what came before it. -/

namespace AdocLint.Linter

def verdict (g : Graph) (cfg : Value) (c : Checker) : Except Fault (Option Checker) :=
  (directive g cfg c.rule.code).map (·.apply c)

def Settled (g : Graph) (cfg : Value) (c : Checker) : Prop :=
  verdict g cfg c = .ok (some c)

def SettledAfterDrop (g : Graph) (cfg : Value) (c n : Checker) : Prop :=
  verdict g cfg c = .ok none → Settled g cfg n

def selectRules (g : Graph) (cfg : Value) (cs : List Checker) : Except Fault (List Checker) :=
  (cs.mapM (verdict g cfg)).map (·.filterMap id)

variable {g : Graph} {cfg : Value} {c c' : Checker} {f : Fault}

theorem apply_rule {d : Directive} (h : d.apply c = some c') : c'.rule = c.rule := by
  cases d with
  | drop => cases h
  | keep => cases h; rfl
  | setSeverity s => cases h; rfl

theorem apply_apply {d : Directive} (h : d.apply c = some c') : d.apply c' = some c' := by
  cases d with
  | drop => cases h
  | keep => cases h; rfl
  | setSeverity s => cases h; rfl

theorem verdict_settled (h : verdict g cfg c = .ok (some c')) : Settled g cfg c' := by
  unfold verdict at h
  cases hd : directive g cfg c.rule.code with
  | error e => simp [hd, Except.map] at h
  | ok d =>
    simp only [hd, Except.map, Except.ok.injEq] at h
    simp [Settled, verdict, apply_rule h, hd, Except.map, apply_apply h]

theorem not_settled_of_none (h : verdict g cfg c = .ok none) : ¬ Settled g cfg c := by
  simp [Settled, h]

theorem settledAfterDrop_of_some (h : verdict g cfg c = .ok (some c')) (n : Checker) :
    SettledAfterDrop g cfg c n := by
  simp [SettledAfterDrop, h]

/-! One step of the loop, by what the visited rule's entry asks. -/

theorem configureFrom_cons (kept rest : List Checker) (c : Checker) :
    configureFrom g cfg kept (c :: rest) =
      match directive g cfg c.rule.code with
      | .ok .drop =>
        match rest with
        | [] => (kept.reverse, none)
        | n :: rest' => configureFrom g cfg (n :: kept) rest'
      | .ok .keep => configureFrom g cfg (c :: kept) rest
      | .ok (.setSeverity s) => configureFrom g cfg ({ c with severity := s } :: kept) rest
      | .error f => (kept.reverse ++ c :: rest, some f) := by
  cases rest with
  | nil =>
    rcases h : directive g cfg c.rule.code with f | (_ | _ | s) <;> rw [configureFrom.eq_2, h]
  | cons n rest' =>
    rcases h : directive g cfg c.rule.code with f | (_ | _ | s) <;> rw [configureFrom.eq_3, h]

theorem configureFrom_kept :
    ∀ (kept cs : List Checker), configureFrom g cfg kept cs =
      (kept.reverse ++ (configureFrom g cfg [] cs).1, (configureFrom g cfg [] cs).2)
  | kept, [] => by simp [configureFrom]
  | kept, c :: rest => by
    rw [configureFrom_cons, configureFrom_cons]
    cases directive g cfg c.rule.code with
    | error e => simp
    | ok d =>
      cases d with
      | drop =>
        cases rest with
        | nil => simp
        | cons n rest' =>
          simp only [configureFrom_kept (n :: kept) rest', configureFrom_kept [n] rest']
          simp
      | keep =>
        simp only [configureFrom_kept (c :: kept) rest, configureFrom_kept [c] rest]
        simp
      | setSeverity s =>
        simp only [configureFrom_kept ({ c with severity := s } :: kept) rest,
          configureFrom_kept [{ c with severity := s }] rest]
        simp

theorem configureFrom_of_error {rest : List Checker} (h : verdict g cfg c = .error f) :
    configureFrom g cfg [] (c :: rest) = (c :: rest, some f) := by
  unfold verdict at h
  cases hd : directive g cfg c.rule.code with
  | error e =>
    simp only [hd, Except.map, Except.error.injEq] at h
    simp [configureFrom_cons, hd, h]
  | ok d => simp [hd, Except.map] at h

theorem configureFrom_of_some {rest : List Checker} (h : verdict g cfg c = .ok (some c')) :
    configureFrom g cfg [] (c :: rest) =
      (c' :: (configureFrom g cfg [] rest).1, (configureFrom g cfg [] rest).2) := by
  unfold verdict at h
  cases hd : directive g cfg c.rule.code with
  | error e => simp [hd, Except.map] at h
  | ok d =>
    simp only [hd, Except.map, Except.ok.injEq] at h
    cases d with
    | drop => cases h
    | keep =>
      cases h
      rw [configureFrom_cons, hd]
      dsimp only
      rw [configureFrom_kept]
      rfl
    | setSeverity s =>
      cases h
      rw [configureFrom_cons, hd]
      dsimp only
      rw [configureFrom_kept]
      rfl

theorem directive_of_none (h : verdict g cfg c = .ok none) :
    directive g cfg c.rule.code = .ok .drop := by
  unfold verdict at h
  cases hd : directive g cfg c.rule.code with
  | error e => simp [hd, Except.map] at h
  | ok d =>
    simp only [hd, Except.map, Except.ok.injEq] at h
    cases d <;> simp_all [Directive.apply]

theorem configureFrom_of_none_last (h : verdict g cfg c = .ok none) :
    configureFrom g cfg [] [c] = ([], none) := by
  simp [configureFrom_cons, directive_of_none h]

theorem configureFrom_of_none {n : Checker} {rest : List Checker} (h : verdict g cfg c = .ok none) :
    configureFrom g cfg [] (c :: n :: rest) =
      (n :: (configureFrom g cfg [] rest).1, (configureFrom g cfg [] rest).2) := by
  rw [configureFrom_cons, directive_of_none h]
  dsimp only
  rw [configureFrom_kept]
  rfl

theorem configureFrom_length_le :
    ∀ cs : List Checker, (configureFrom g cfg [] cs).1.length ≤ cs.length
  | [] => by simp [configureFrom]
  | c :: rest => by
    cases hv : verdict g cfg c with
    | error e => simp [configureFrom_of_error hv]
    | ok v =>
      cases v with
      | none =>
        cases rest with
        | nil => simp [configureFrom_of_none_last hv]
        | cons n rest' =>
          have ih := configureFrom_length_le rest'
          simp only [configureFrom_of_none hv, List.length_cons]
          omega
      | some c' =>
        have ih := configureFrom_length_le rest
        simp only [configureFrom_of_some hv, List.length_cons]
        omega

theorem configure_of_map {l : Linter} {es : List (Value × Value)} (h : g.resolve g.root = .map es) :
    l.configure g = (⟨(configureFrom g (rulesEntry g) [] l.checkers).1⟩,
      (configureFrom g (rulesEntry g) [] l.checkers).2) := by
  simp [configure, h]

theorem configure_of_not_map {l : Linter} (h : ∀ es, g.resolve g.root ≠ .map es) :
    l.configure g = (l, some (.noOperation (g.kindName g.root) "get")) := by
  unfold configure
  split
  · exact absurd ‹_› (h _)
  · rfl

theorem configureFrom_of_configure {l l' : Linter} {r : Option Fault} (h : l.configure g = (l', r))
    (hr : r = none) : configureFrom g (rulesEntry g) [] l.checkers = (l'.checkers, none) := by
  by_cases hm : ∃ es, g.resolve g.root = .map es
  · obtain ⟨es, hm⟩ := hm
    rw [configure_of_map hm, Prod.mk.injEq] at h
    rw [← h.1, ← hr, ← h.2]
  · rw [configure_of_not_map (fun es he => hm ⟨es, he⟩), Prod.mk.injEq] at h
    simp [hr] at h

/-! The documented selection. -/

theorem selectRules_nil : selectRules g cfg [] = .ok [] := rfl

theorem selectRules_of_error {rest : List Checker} (h : verdict g cfg c = .error f) :
    selectRules g cfg (c :: rest) = .error f := by
  simp only [selectRules, List.mapM_cons, h]
  rfl

theorem selectRules_of_none {rest : List Checker} (h : verdict g cfg c = .ok none) :
    selectRules g cfg (c :: rest) = selectRules g cfg rest := by
  simp only [selectRules, List.mapM_cons, h]
  cases rest.mapM (verdict g cfg) <;> rfl

theorem selectRules_of_some {rest : List Checker} (h : verdict g cfg c = .ok (some c')) :
    selectRules g cfg (c :: rest) = (selectRules g cfg rest).map (c' :: ·) := by
  simp only [selectRules, List.mapM_cons, h]
  cases rest.mapM (verdict g cfg) <;> rfl

theorem settled_of_selectRules :
    ∀ {cs xs : List Checker}, selectRules g cfg cs = .ok xs → ∀ x ∈ xs, Settled g cfg x
  | [], xs, h => by
    cases h
    simp
  | c :: rest, xs, h => by
    cases hv : verdict g cfg c with
    | error e => simp [selectRules_of_error hv] at h
    | ok v =>
      cases v with
      | none =>
        rw [selectRules_of_none hv] at h
        exact settled_of_selectRules h
      | some c' =>
        rw [selectRules_of_some hv] at h
        cases hr : selectRules g cfg rest with
        | error e => simp [hr, Except.map] at h
        | ok ys =>
          simp only [hr, Except.map, Except.ok.injEq] at h
          subst h
          intro x hx
          rcases List.mem_cons.1 hx with rfl | hx
          · exact verdict_settled hv
          · exact settled_of_selectRules hr x hx

/-! Which rules the loop leaves unsettled: only those it passes over. -/

theorem settled_iff_isChain :
    ∀ cs : List Checker, (configureFrom g cfg [] cs).2 = none →
      ((∀ x ∈ (configureFrom g cfg [] cs).1, Settled g cfg x) ↔
        cs.IsChain (SettledAfterDrop g cfg))
  | [], _ => by simp [configureFrom]
  | c :: rest, h => by
    cases hv : verdict g cfg c with
    | error e => simp [configureFrom_of_error hv] at h
    | ok v =>
      cases v with
      | none =>
        cases rest with
        | nil => simp [configureFrom_of_none_last hv]
        | cons n rest' =>
          rw [configureFrom_of_none hv] at h ⊢
          simp only [List.forall_mem_cons, settled_iff_isChain rest' h, List.isChain_cons_cons]
          constructor
          · rintro ⟨hn, hrest⟩
            refine ⟨fun _ => hn, List.isChain_cons.2 ⟨?_, hrest⟩⟩
            exact fun y _ => settledAfterDrop_of_some hn y
          · rintro ⟨hcn, hnr⟩
            exact ⟨hcn hv, hnr.tail⟩
      | some c' =>
        rw [configureFrom_of_some hv] at h ⊢
        simp only [List.forall_mem_cons, settled_iff_isChain rest h, List.isChain_cons]
        simp [verdict_settled hv, settledAfterDrop_of_some hv]

theorem selectRules_of_isChain :
    ∀ cs : List Checker, (configureFrom g cfg [] cs).2 = none →
      cs.IsChain (SettledAfterDrop g cfg) → selectRules g cfg cs = .ok (configureFrom g cfg [] cs).1
  | [], _, _ => rfl
  | c :: rest, h, hc => by
    cases hv : verdict g cfg c with
    | error e => simp [configureFrom_of_error hv] at h
    | ok v =>
      cases v with
      | none =>
        cases rest with
        | nil => simp [configureFrom_of_none_last hv, selectRules_of_none hv, selectRules_nil]
        | cons n rest' =>
          rw [configureFrom_of_none hv] at h ⊢
          rw [List.isChain_cons_cons] at hc
          have hn : Settled g cfg n := hc.1 hv
          rw [selectRules_of_none hv, selectRules_of_some hn, selectRules_of_isChain rest' h hc.2.tail]
          rfl
      | some c' =>
        rw [configureFrom_of_some hv] at h ⊢
        rw [selectRules_of_some hv, selectRules_of_isChain rest h hc.tail]
        rfl

theorem selectRules_eq_configure_iff {l l' : Linter} (h : l.configure g = (l', none)) :
    selectRules g (rulesEntry g) l.checkers = .ok l'.checkers ↔
      l.checkers.IsChain (SettledAfterDrop g (rulesEntry g)) := by
  have hcf := configureFrom_of_configure h rfl
  have hnone : (configureFrom g (rulesEntry g) [] l.checkers).2 = none := by rw [hcf]
  constructor
  · intro hs
    apply (settled_iff_isChain l.checkers hnone).1
    rw [hcf]
    exact settled_of_selectRules hs
  · intro hc
    rw [selectRules_of_isChain l.checkers hnone hc, hcf]

def rulesConfig (entries : List (String × List (String × Value))) : Graph :=
  Value.toGraph (.map [(.str "rules", .map (entries.map fun (code, es) =>
    (.str code, .map (es.map fun (k, v) => (.str k, v)))))])

def dropsTwoInARow : Graph :=
  rulesConfig [("FMT004", [("enabled", .bool false)]), ("FMT001", [("enabled", .bool false)])]

theorem selectRules_eq_configure_iff_drops_two :
    ∃ l', Linter.initial.configure dropsTwoInARow = (l', none) ∧
      (selectRules dropsTwoInARow (rulesEntry dropsTwoInARow) Linter.initial.checkers =
          .ok l'.checkers ↔
        Linter.initial.checkers.IsChain
          (SettledAfterDrop dropsTwoInARow (rulesEntry dropsTwoInARow))) := by
  have hf : (Linter.initial.configure dropsTwoInARow).2.isNone = true := by decide +kernel
  have h : Linter.initial.configure dropsTwoInARow =
      ((Linter.initial.configure dropsTwoInARow).1, none) :=
    Prod.ext rfl (Option.isNone_iff_eq_none.1 hf)
  exact ⟨_, h, selectRules_eq_configure_iff h⟩

-- Dropping the Markdown rule passes over the numbered-list rule, which stays although dropped.
example : (Linter.initial.configure dropsTwoInARow).1.checkers.any
    (·.rule == .numberedList) = true := by
  decide +kernel

/-! A fault stops the loop where it is. -/

theorem configureFrom_fault_split :
    ∀ cs : List Checker, (configureFrom g cfg [] cs).2 = some f →
      ∃ pre c post, cs = pre ++ c :: post ∧ verdict g cfg c = .error f ∧
        (configureFrom g cfg [] pre).2 = none ∧
        (configureFrom g cfg [] cs).1 = (configureFrom g cfg [] pre).1 ++ c :: post
  | [], h => by simp [configureFrom] at h
  | c :: rest, h => by
    cases hv : verdict g cfg c with
    | error e =>
      rw [configureFrom_of_error hv, Option.some.injEq] at h
      subst h
      exact ⟨[], c, rest, rfl, hv, rfl, by simp [configureFrom_of_error hv, configureFrom]⟩
    | ok v =>
      cases v with
      | none =>
        cases rest with
        | nil => simp [configureFrom_of_none_last hv] at h
        | cons n rest' =>
          rw [configureFrom_of_none hv] at h ⊢
          obtain ⟨pre, d, post, rfl, hd, hpre, hcs⟩ := configureFrom_fault_split rest' h
          refine ⟨c :: n :: pre, d, post, rfl, hd, ?_, ?_⟩
          · rw [configureFrom_of_none hv]
            exact hpre
          · rw [configureFrom_of_none hv, hcs]
            rfl
      | some c' =>
        rw [configureFrom_of_some hv] at h ⊢
        obtain ⟨pre, d, post, rfl, hd, hpre, hcs⟩ := configureFrom_fault_split rest h
        refine ⟨c :: pre, d, post, rfl, hd, ?_, ?_⟩
        · rw [configureFrom_of_some hv]
          exact hpre
        · rw [configureFrom_of_some hv, hcs]
          rfl

def bogusAfterDrop : Graph :=
  rulesConfig [("WS001", [("enabled", .bool false)]), ("FMT004", [("severity", .str "bogus")])]

theorem configure_not_atomic :
    (Linter.initial.configure bogusAfterDrop).2.isSome = true ∧
      (Linter.initial.configure bogusAfterDrop).1.checkers.any (·.rule == .whitespace) = false := by
  decide +kernel

theorem configure_fault_split {l l' : Linter} (h : l.configure g = (l', some f)) :
    l' = l ∨ ∃ pre c post, l.checkers = pre ++ c :: post ∧ verdict g (rulesEntry g) c = .error f ∧
      ((⟨pre⟩ : Linter).configure g).2 = none ∧
      l'.checkers = ((⟨pre⟩ : Linter).configure g).1.checkers ++ c :: post := by
  by_cases hm : ∃ es, g.resolve g.root = .map es
  · obtain ⟨es, hm⟩ := hm
    rw [configure_of_map hm, Prod.mk.injEq] at h
    obtain ⟨pre, c, post, hcs, hc, hpre, hsplit⟩ := configureFrom_fault_split l.checkers h.2
    refine .inr ⟨pre, c, post, hcs, hc, ?_, ?_⟩
    · rw [configure_of_map hm]
      exact hpre
    · rw [configure_of_map hm, ← h.1]
      exact hsplit
  · rw [configure_of_not_map (fun es he => hm ⟨es, he⟩), Prod.mk.injEq] at h
    exact .inl h.1.symm

theorem configure_fault_split_bogus_after_drop :
    ∃ l' f, Linter.initial.configure bogusAfterDrop = (l', some f) ∧
      (l' = Linter.initial ∨ ∃ pre c post, Linter.initial.checkers = pre ++ c :: post ∧
        verdict bogusAfterDrop (rulesEntry bogusAfterDrop) c = .error f ∧
        ((⟨pre⟩ : Linter).configure bogusAfterDrop).2 = none ∧
        l'.checkers = ((⟨pre⟩ : Linter).configure bogusAfterDrop).1.checkers ++ c :: post) := by
  have hf : (Linter.initial.configure bogusAfterDrop).2.isSome = true := by decide +kernel
  have h : Linter.initial.configure bogusAfterDrop =
      ((Linter.initial.configure bogusAfterDrop).1,
        some ((Linter.initial.configure bogusAfterDrop).2.get hf)) :=
    Prod.ext rfl (Option.some_get hf).symm
  exact ⟨_, _, h, configure_fault_split h⟩

/-! Configuring again. -/

theorem configureFrom_eq_self_iff :
    ∀ xs : List Checker, configureFrom g cfg [] xs = (xs, none) ↔ ∀ x ∈ xs, Settled g cfg x
  | [] => by simp [configureFrom]
  | x :: rest => by
    cases hv : verdict g cfg x with
    | error e => simp [configureFrom_of_error hv, Settled, hv]
    | ok v =>
      cases v with
      | none =>
        simp only [List.forall_mem_cons, not_settled_of_none hv, false_and, iff_false]
        cases rest with
        | nil => simp [configureFrom_of_none_last hv]
        | cons n rest' =>
          -- the loop drops `x` and keeps at most what `rest'` had after `n`
          intro he
          have hl := congrArg (·.1.length) he
          have hle : (configureFrom g cfg [] rest').1.length ≤ rest'.length :=
            configureFrom_length_le rest'
          simp only [configureFrom_of_none hv, List.length_cons] at hl
          omega
      | some x' =>
        rw [configureFrom_of_some hv, List.forall_mem_cons, ← configureFrom_eq_self_iff rest]
        simp only [Prod.mk.injEq, List.cons.injEq, Settled, hv, Option.some.injEq,
          Except.ok.injEq]
        constructor
        · rintro ⟨⟨rfl, hr⟩, hn⟩
          exact ⟨rfl, Prod.ext hr hn⟩
        · rintro ⟨rfl, he⟩
          exact ⟨⟨rfl, congrArg Prod.fst he⟩, congrArg Prod.snd he⟩

theorem configure_configure_iff {l l' : Linter} (h : l.configure g = (l', none)) :
    l'.configure g = (l', none) ↔ l.checkers.IsChain (SettledAfterDrop g (rulesEntry g)) := by
  have hcf := configureFrom_of_configure h rfl
  have hnone : (configureFrom g (rulesEntry g) [] l.checkers).2 = none := by rw [hcf]
  obtain ⟨es, hm⟩ : ∃ es, g.resolve g.root = .map es := by
    by_contra hm
    rw [configure_of_not_map (fun es he => hm ⟨es, he⟩)] at h
    simp at h
  rw [← settled_iff_isChain l.checkers hnone, hcf, ← configureFrom_eq_self_iff,
    configure_of_map hm]
  constructor
  · intro he
    rw [Prod.mk.injEq] at he
    exact Prod.ext (congrArg Linter.checkers he.1) he.2
  · intro he
    rw [he]

end AdocLint.Linter
