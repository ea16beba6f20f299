import AdocLint.Proofs.RuleCodes
import Mathlib.Data.List.TakeWhile

/-! The whitespace rule's count of blank lines in a row: it reports exactly where the run ending at
a line, with the carried count when the run reaches the start, passes two. -/

namespace AdocLint.Spacing

variable (sev : Severity) (texts : Array String) (byPosition : Bool)

theorem lineFindings_snd (i : Nat) (content : String) (run : Nat) :
    (lineFindings sev texts byPosition i content run).2 =
      if Text.isBlankText content then run + 1 else 0 := rfl

theorem lineFindings_fst_run (i : Nat) (content : String) (run : Nat) :
    (lineFindings sev texts byPosition i content run).1 =
      (lineFindings sev texts byPosition i content 0).1.map fun fs =>
        (if Text.isBlankText content = true ∧ 2 < run + 1 then
          [Finding.atLine "WS001" sev (i + 1) "Too many consecutive empty lines" (.str content)]
        else []) ++ fs := by
  simp only [lineFindings]
  cases titleMessages texts byPosition texts.size i content <;>
    cases admonitionMessages texts byPosition i content <;>
    by_cases hb : Text.isBlankText content = true <;> by_cases hr : 2 < run + 1 <;>
    simp [bind, Except.bind, Except.map, pure, Except.pure, hb, hr]

theorem titleMessages_ok (n i : Nat) (content : String) :
    ∃ ms, titleMessages texts true n i content = .ok ms := by
  simp only [titleMessages, neighbour, if_true]
  split
  · exact ⟨_, rfl⟩
  · split
    · split <;> split <;> exact ⟨_, rfl⟩
    · split <;> exact ⟨_, rfl⟩

theorem admonitionMessages_ok (i : Nat) (content : String) :
    ∃ ms, admonitionMessages texts true i content = .ok ms := by
  simp only [admonitionMessages, neighbour, if_true, bind, Except.bind]
  split
  · split <;> exact ⟨_, rfl⟩
  · exact ⟨_, rfl⟩

theorem lineFindings_ok (i : Nat) (content : String) (run : Nat) :
    ∃ fs, (lineFindings sev texts true i content run).1 = .ok fs := by
  obtain ⟨title, ht⟩ := titleMessages_ok texts texts.size i content
  obtain ⟨adm, ha⟩ := admonitionMessages_ok texts i content
  simp only [lineFindings, ht, ha]
  exact ⟨_, rfl⟩

theorem scanFrom_cons_fst (i run : Nat) (s : String) (rest : List String) :
    (scanFrom sev texts byPosition i run (s :: rest)).1 =
      (lineFindings sev texts byPosition i s run).1 >>= fun fs =>
        (scanFrom sev texts byPosition (i + 1) (lineFindings sev texts byPosition i s run).2
          rest).1.map (fs ++ ·) := by
  rw [scanFrom.eq_2]
  rcases lineFindings sev texts byPosition i s run with ⟨_ | fs, run'⟩ <;> rfl

theorem scanFrom_ok : ∀ (i run : Nat) (ls : List String),
    ∃ X, (scanFrom sev texts true i run ls).1 = .ok X
  | _, _, [] => ⟨[], rfl⟩
  | i, run, s :: rest => by
    obtain ⟨fs, hfs⟩ := lineFindings_ok sev texts i s run
    obtain ⟨later, hl⟩ := scanFrom_ok (i + 1) (lineFindings sev texts true i s run).2 rest
    rw [scanFrom_cons_fst, hfs, hl]
    exact ⟨_, rfl⟩

def leadingBlanks (ls : List String) : Nat := (ls.takeWhile Text.isBlankText).length

theorem leadingBlanks_cons (s : String) (rest : List String) :
    leadingBlanks (s :: rest) = if Text.isBlankText s then leadingBlanks rest + 1 else 0 := by
  unfold leadingBlanks
  by_cases hs : Text.isBlankText s = true <;> simp [hs]

def flaggedLeading (c L : Nat) : Nat := L - min L (2 - c)

theorem flaggedLeading_succ (c L : Nat) :
    flaggedLeading c (L + 1) = (if 2 < c + 1 then 1 else 0) + flaggedLeading (c + 1) L := by
  unfold flaggedLeading
  split <;> omega

theorem scanFrom_congr :
    ∀ (i a b : Nat) (ls : List String),
      (∀ k < leadingBlanks ls, (2 < a + k + 1 ↔ 2 < b + k + 1)) →
      (scanFrom sev texts byPosition i a ls).1 = (scanFrom sev texts byPosition i b ls).1
  | _, _, _, [], _ => rfl
  | i, a, b, s :: rest, h => by
    rw [scanFrom_cons_fst, scanFrom_cons_fst, lineFindings_fst_run _ _ _ i s a,
      lineFindings_fst_run _ _ _ i s b]
    by_cases hs : Text.isBlankText s = true
    · rw [leadingBlanks_cons, if_pos hs] at h
      have h0 : (2 < a + 1 ↔ 2 < b + 1) := by simpa using h 0 (by omega)
      have hrest := scanFrom_congr (i + 1) (a + 1) (b + 1) rest fun k hk => by
        have := h (k + 1) (by omega)
        constructor <;> intro <;> omega
      simp only [lineFindings_snd, hs, if_true, h0, hrest]
    · -- a line that is not blank resets both counts
      simp only [lineFindings_snd, hs, Bool.false_eq_true, false_and, if_false]

theorem scanFrom_length :
    ∀ (i a b : Nat) (ls : List String) {X Y : List Finding},
      (scanFrom sev texts byPosition i a ls).1 = .ok X →
      (scanFrom sev texts byPosition i b ls).1 = .ok Y →
      X.length + flaggedLeading b (leadingBlanks ls) = Y.length + flaggedLeading a (leadingBlanks ls)
  | _, _, _, [], _, _, hX, hY => by
    cases hX
    cases hY
    rfl
  | i, a, b, s :: rest, X, Y, hX, hY => by
    rw [scanFrom_cons_fst, lineFindings_fst_run] at hX hY
    obtain ⟨fa, hfa, hX⟩ := bind_eq_ok hX
    obtain ⟨fb, hfb, hY⟩ := bind_eq_ok hY
    obtain ⟨R, hR, rfl⟩ := map_eq_ok hfa
    obtain ⟨R', hR', rfl⟩ := map_eq_ok hfb
    rw [hR] at hR'
    cases hR'
    obtain ⟨X', hX', rfl⟩ := map_eq_ok hX
    obtain ⟨Y', hY', rfl⟩ := map_eq_ok hY
    rw [lineFindings_snd] at hX' hY'
    by_cases hs : Text.isBlankText s = true
    · rw [if_pos hs] at hX' hY'
      have ih := scanFrom_length (i + 1) (a + 1) (b + 1) rest hX' hY'
      rw [leadingBlanks_cons, if_pos hs, flaggedLeading_succ, flaggedLeading_succ]
      simp only [hs, true_and, List.length_append]
      split <;> split <;> simp <;> omega
    · rw [if_neg hs] at hX' hY'
      rw [hX'] at hY'
      cases hY'
      simp [leadingBlanks_cons, hs, flaggedLeading]

def CountShows (c : Nat) (ls : List String) : Prop :=
  0 < leadingBlanks ls ∧ 2 < c + min (leadingBlanks ls) 2

instance (c : Nat) (ls : List String) : Decidable (CountShows c ls) :=
  inferInstanceAs (Decidable (_ ∧ _))

theorem flaggedLeading_zero_le (c L : Nat) : flaggedLeading 0 L ≤ flaggedLeading c L := by
  unfold flaggedLeading
  omega

theorem flaggedLeading_eq_zero_iff (c : Nat) (ls : List String) :
    flaggedLeading c (leadingBlanks ls) = flaggedLeading 0 (leadingBlanks ls) ↔
      ¬ CountShows c ls := by
  unfold flaggedLeading CountShows
  omega

theorem scanFrom_eq_fresh_iff (i c : Nat) (ls : List String) :
    (scanFrom sev texts true i c ls).1 = (scanFrom sev texts true i 0 ls).1 ↔
      ¬ CountShows c ls := by
  constructor
  · intro h
    obtain ⟨X, hX⟩ := scanFrom_ok sev texts i c ls
    have hlen := scanFrom_length sev texts true i c 0 ls hX (h ▸ hX)
    exact (flaggedLeading_eq_zero_iff c ls).1 (by omega)
  · intro h
    apply scanFrom_congr
    intro k hk
    unfold CountShows at h
    omega

theorem findings_lines (ls : List String) (run : Nat) :
    findings sev (.entries (ls.map .line)) run = scanFrom sev ls.toArray true 0 run ls := by
  simp only [findings, Document.scanEntries, Document.byPosition, List.map_map]
  congr <;> exact List.map_id ls

/-! ### Too many blank lines, line by line -/

theorem trim_eq_empty_iff (s : String) : Text.trim s = "" ↔ Text.isBlankText s = true := by
  have hd := List.head?_dropWhile_not Text.isBlank s.toList
  rw [Text.trim, String.ofList_eq_empty_iff, Text.trimChars, Text.dropBlanksEnd,
    List.reverse_eq_nil_iff, List.dropWhile_eq_nil_iff, Text.isBlankText, List.all_eq_true]
  constructor
  · -- what is left after the leading blanks holds only blanks, so nothing is left
    intro h
    cases hdw : s.toList.dropWhile Text.isBlank with
    | nil => exact List.dropWhile_eq_nil_iff.1 hdw
    | cons c cs =>
      rw [hdw] at hd h
      simp at hd
      exact absurd (h c (by simp)) (by simp [hd])
  · intro h x hx
    exact h x (List.mem_reverse.1 hx |> (List.dropWhile_sublist _).subset)

def blanksEndingAt (D : List String) (i : Nat) : Nat :=
  ((D.take (i + 1)).reverse.takeWhile fun s => Text.trim s == "").length

def runAt (c : Nat) (D : List String) (i : Nat) : Nat :=
  if blanksEndingAt D i = i + 1 then c + (i + 1) else blanksEndingAt D i

theorem trim_beq_empty (s : String) : (Text.trim s == "") = Text.isBlankText s := by
  rw [Bool.eq_iff_iff, beq_iff_eq, trim_eq_empty_iff]

theorem blanksEndingAt_le (D : List String) (i : Nat) : blanksEndingAt D i ≤ i + 1 :=
  (List.takeWhile_sublist _).length_le.trans
    (by rw [List.length_reverse, List.length_take]; exact Nat.min_le_left _ _)

theorem runAt_cons_zero (c : Nat) (s : String) (D : List String) :
    runAt c (s :: D) 0 = if Text.isBlankText s then c + 1 else 0 := by
  by_cases hs : Text.isBlankText s = true <;> simp [runAt, blanksEndingAt, trim_beq_empty, hs]

theorem runAt_cons_succ (c : Nat) (s : String) {D : List String} {i : Nat} (hi : i < D.length) :
    runAt c (s :: D) (i + 1) = runAt (if Text.isBlankText s then c + 1 else 0) D i := by
  have hlen : (D.take (i + 1)).reverse.length = i + 1 := by simp; omega
  -- the run ending at `i + 1` reaches back to `s` only when the run ending at `i` fills `D`'s start
  have hrun : blanksEndingAt (s :: D) (i + 1) =
      if blanksEndingAt D i = i + 1 then i + 1 + (if Text.isBlankText s then 1 else 0)
      else blanksEndingAt D i := by
    unfold blanksEndingAt
    rw [List.take_succ_cons, List.reverse_cons, List.takeWhile_append, hlen]
    by_cases hs : Text.isBlankText s = true <;> split <;> simp [trim_beq_empty, *]
  have hle := blanksEndingAt_le D i
  unfold runAt
  rw [hrun]
  by_cases hs : Text.isBlankText s = true <;> split <;> simp <;> omega

theorem titleMessages_cases (n i : Nat) (content : String) :
    ∃ ms, titleMessages texts true n i content = .ok ms ∧
      ∀ m ∈ ms, m = "Section title should be preceded by a blank line" ∨
        m = "Section title should be followed by a blank line" ∨
        ∃ run, m = "Missing space after " ++ run := by
  simp only [titleMessages, neighbour, if_true]
  split
  · exact ⟨[], rfl, by simp⟩
  · split
    · -- a title's messages are about the lines around it
      split <;> split <;> refine ⟨_, rfl, fun m hm => ?_⟩ <;>
        simp only [List.mem_append] at hm <;> grind
    · split <;> exact ⟨_, rfl, by simp⟩

theorem admonitionMessages_cases (i : Nat) (content : String) :
    ∃ ms, admonitionMessages texts true i content = .ok ms ∧
      ∀ m ∈ ms, m = "Admonition block should be preceded by a blank line" := by
  simp only [admonitionMessages, neighbour, if_true, bind, Except.bind]
  split
  · split <;> exact ⟨_, rfl, by simp⟩
  · exact ⟨_, rfl, by simp⟩

theorem lineFindings_zero_quiet (i : Nat) (content : String) :
    ∃ fs, (lineFindings sev texts true i content 0).1 = .ok fs ∧
      ∀ f ∈ fs, f.message ≠ "Too many consecutive empty lines" := by
  obtain ⟨title, ht, htitle⟩ := titleMessages_cases texts texts.size i content
  obtain ⟨adm, ha, hadm⟩ := admonitionMessages_cases texts i content
  simp only [lineFindings, ht, ha]
  refine ⟨_, rfl, ?_⟩
  intro f hf
  simp only [List.mem_map, List.mem_append] at hf
  obtain ⟨m, hm, rfl⟩ := hf
  -- each message but the one on too many blank lines starts with another letter
  have hhead : m.toList.head? ≠ some 'T' := by
    rcases hm with (((((hm | hm) | hm) | hm) | hm) | hm)
    · -- with no blank line before it, the count reaches one at most
      obtain ⟨⟨hb, hlt⟩, -⟩ := by simpa using hm
      simp [hb] at hlt
    · obtain ⟨x, -, rfl⟩ := by simpa using hm
      simp [String.toList_append]
    · split at hm <;> simp_all
    · split at hm <;> simp_all
    · rcases htitle m hm with rfl | rfl | ⟨run, rfl⟩ <;> simp [String.toList_append]
    · rw [hadm m hm]
      simp
  exact fun h => hhead (by simp [Finding.atLine] at h; simp [h])

def ReportsRunAt (fs : List Finding) (i : Nat) : Prop :=
  ∃ f ∈ fs, f.message = "Too many consecutive empty lines" ∧
    f.position = some { line := ((i + 1 : Nat) : Int) }

theorem reportsRunAt_append (fs gs : List Finding) (i : Nat) :
    ReportsRunAt (fs ++ gs) i ↔ ReportsRunAt fs i ∨ ReportsRunAt gs i := by
  simp only [ReportsRunAt, List.mem_append, or_and_right, exists_or]

theorem scanFrom_cons_snd (i run : Nat) (s : String) (rest : List String) :
    (scanFrom sev texts true i run (s :: rest)).2 =
      (scanFrom sev texts true (i + 1) (lineFindings sev texts true i s run).2 rest).2 := by
  obtain ⟨fs, hfs⟩ := lineFindings_ok sev texts i s run
  rw [scanFrom.eq_2]
  rcases h : lineFindings sev texts true i s run with ⟨_ | fs', run'⟩
  · rw [h] at hfs
    cases hfs
  · rfl

theorem scanFrom_snd_runAt : ∀ (k run : Nat) (ls : List String),
    (scanFrom sev texts true k run ls).2 = if ls = [] then run else runAt run ls (ls.length - 1)
  | _, _, [] => rfl
  | k, run, s :: rest => by
    rw [scanFrom_cons_snd, scanFrom_snd_runAt, lineFindings_snd]
    cases rest with
    | nil => simp [runAt_cons_zero]
    | cons s' rest' =>
      simp only [reduceCtorEq, if_false, List.length_cons]
      rw [show rest'.length + 1 + 1 - 1 = rest'.length + 1 - 1 + 1 by omega,
        runAt_cons_succ _ _ (by simp)]

theorem reportsRunAt_own (P : Prop) [Decidable P] (k i : Nat) (s : String) :
    ReportsRunAt (if P then
        [Finding.atLine "WS001" sev (k + 1) "Too many consecutive empty lines" (.str s)]
      else []) i ↔ i = k ∧ P := by
  by_cases hP : P
  · simp only [hP, if_true, ReportsRunAt, List.mem_singleton, exists_eq_left, Finding.atLine,
      Option.some.injEq, Position.mk.injEq, and_true, true_and, Int.natCast_inj,
      Nat.add_right_cancel_iff, eq_comm]
  · simp [ReportsRunAt, hP]

theorem scanFrom_reports : ∀ (k run : Nat) (ls : List String),
    ∃ fs, (scanFrom sev texts true k run ls).1 = .ok fs ∧
      ∀ i, ReportsRunAt fs i ↔ k ≤ i ∧ i < k + ls.length ∧ 2 < runAt run ls (i - k)
  | k, run, [] => ⟨[], rfl, fun i => by simp [ReportsRunAt]; omega⟩
  | k, run, s :: rest => by
    obtain ⟨fs, hfs, hquiet⟩ := lineFindings_zero_quiet sev texts k s
    obtain ⟨later, hl, hlater⟩ :=
      scanFrom_reports (k + 1) (if Text.isBlankText s then run + 1 else 0) rest
    refine ⟨_, by rw [scanFrom_cons_fst, lineFindings_fst_run, hfs, lineFindings_snd, hl]; rfl,
      fun i => ?_⟩
    rw [reportsRunAt_append, reportsRunAt_append, hlater]
    have hnone : ¬ReportsRunAt fs i := fun ⟨f, hf, hm, _⟩ => hquiet f hf hm
    simp only [hnone, or_false]
    -- the line's own finding stands at index `k`, the later ones after it
    rw [reportsRunAt_own, List.length_cons]
    rcases Nat.lt_trichotomy i k with hlt | rfl | hgt
    · constructor
      · rintro (⟨rfl, -⟩ | ⟨h, -⟩) <;> omega
      · rintro ⟨h, -⟩
        omega
    · rw [Nat.sub_self, runAt_cons_zero]
      -- no later finding stands at the line's own index
      have hin : i < i + (rest.length + 1) := by omega
      simp only [Nat.not_succ_le_self, false_and, or_false, Nat.le_refl, hin, true_and]
      by_cases hs : Text.isBlankText s = true <;> simp [hs]
    · have hik : i - k = i - (k + 1) + 1 := by omega
      by_cases hlen : i < k + (rest.length + 1)
      · rw [hik, runAt_cons_succ _ _ (by omega)]
        constructor
        · rintro (⟨rfl, -⟩ | ⟨-, -, h⟩)
          · omega
          · exact ⟨by omega, hlen, h⟩
        · rintro ⟨-, -, h⟩
          exact .inr ⟨by omega, by omega, h⟩
      · constructor
        · rintro (⟨rfl, -⟩ | ⟨-, h, -⟩) <;> omega
        · rintro ⟨-, h, -⟩
          omega

/-- An enabled whitespace checker that carries a count `c` of blank lines reports too many blank
lines in a row at index `i` of a list of lines exactly when the count there passes two: the run of
lines that trim to nothing ending at `i`, with `c` added when the run reaches the first line.
After the check the checker carries the count at the last line, or still `c` for no lines. -/
theorem check_blank_run_reports (isFile : String → Bool) (c : Checker)
    (hrule : c.rule = .whitespace) (hon : c.enabled = true) (D : List String) :
    ∃ fs, (c.check isFile (.entries (D.map .line))).1 = .ok fs ∧
      (∀ i, ReportsRunAt fs i ↔ i < D.length ∧ 2 < runAt c.blankRun D i) ∧
      (c.check isFile (.entries (D.map .line))).2.blankRun =
        if D = [] then c.blankRun else runAt c.blankRun D (D.length - 1) := by
  have hcheck : c.check isFile (.entries (D.map .line)) =
      ((scanFrom c.severity D.toArray true 0 c.blankRun D).1,
        { c with blankRun := (scanFrom c.severity D.toArray true 0 c.blankRun D).2 }) := by
    simp [Checker.check, hrule, hon, findings_lines]
  obtain ⟨fs, hfs, hrep⟩ := scanFrom_reports c.severity D.toArray 0 c.blankRun D
  refine ⟨fs, by rw [hcheck, hfs], fun i => ?_, by rw [hcheck, scanFrom_snd_runAt]⟩
  rw [hrep]
  simp

theorem check_blank_run_reports_carried :
    ({ rule := .whitespace, blankRun := 2 } : Checker).rule = .whitespace ∧
    ({ rule := .whitespace, blankRun := 2 } : Checker).enabled = true ∧
    ∃ fs, (({ rule := .whitespace, blankRun := 2 } : Checker).check (fun _ => false)
        (.entries (["", "x", "", "", " "].map .line))).1 = .ok fs ∧
      (∀ i, ReportsRunAt fs i ↔ i < ["", "x", "", "", " "].length ∧
        2 < runAt ({ rule := .whitespace, blankRun := 2 } : Checker).blankRun
          ["", "x", "", "", " "] i) ∧
      (({ rule := .whitespace, blankRun := 2 } : Checker).check (fun _ => false)
          (.entries (["", "x", "", "", " "].map .line))).2.blankRun =
        if ["", "x", "", "", " "] = [] then
          ({ rule := .whitespace, blankRun := 2 } : Checker).blankRun
        else runAt ({ rule := .whitespace, blankRun := 2 } : Checker).blankRun
          ["", "x", "", "", " "] (["", "x", "", "", " "].length - 1) :=
  ⟨rfl, rfl, check_blank_run_reports (fun _ => false) _ rfl rfl _⟩

example : runAt 2 ["", "x", "", "", " "] 0 = 3 ∧ runAt 2 ["", "x", "", "", " "] 4 = 3 := by decide

end AdocLint.Spacing
