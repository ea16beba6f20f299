import AdocLint.Proofs.BlankRuns
import AdocLint.Proofs.Dispatch
import AdocLint.Proofs.Configuration
import AdocLint.Cli.Run

/-! What a linter keeps from one call to the next: the whitespace rule's count of blank lines, and a
configuration that faulted part way. -/

namespace AdocLint

namespace Linter

def carrying (c : Nat) : Linter :=
  ⟨initial.checkers.map fun k => if k.rule = .whitespace then { k with blankRun := c } else k⟩

theorem carrying_zero : carrying 0 = initial := rfl

theorem carrying_checkers (c : Nat) : (carrying c).checkers =
    initial.checkers.take 5 ++ { Checker.ofRule .whitespace with blankRun := c } ::
      initial.checkers.drop 6 := rfl

theorem check_snd {k : Checker} (hk : k.rule ≠ .whitespace) (isFile : String → Bool)
    (doc : Document) : (k.check isFile doc).2 = k := by
  rcases k with ⟨r, sev, en, run⟩
  cases r <;> simp [Checker.check, apply_ite Prod.snd] at hk ⊢

theorem runFrom_snd (isFile : String → Bool) (lines heads : Document) :
    ∀ cs : List Checker, (runFrom isFile lines heads cs).2 =
      cs.map fun c => (c.check isFile (if c.walksEntries then lines else heads)).2
  | [] => rfl
  | c :: cs => by
    rw [runFrom, List.map_cons, ← runFrom_snd isFile lines heads cs]

theorem map_check_snd (isFile : String → Bool) (lines heads : Document) {cs : List Checker}
    (hcs : ∀ k ∈ cs, k.rule ≠ .whitespace) :
    cs.map (fun c => (c.check isFile (if c.walksEntries then lines else heads)).2) = cs := by
  conv => rhs; rw [← List.map_id cs]
  exact List.map_congr_left fun k hk => check_snd (hcs k hk) isFile _

theorem lintText_carrying (isFile : String → Bool) (text : String) :
    ∃ pre post : List Finding, ∀ c, (carrying c).lintText isFile text =
      (pre ++ findingsOf (Spacing.findings .warning (.entries ((Text.lines text).map .line)) c).1 ++
          post,
        carrying (Spacing.findings .warning (.entries ((Text.lines text).map .line)) c).2) := by
  let lines : Document := .entries ((Text.lines text).map .line)
  let heads : Document := .entries ((Outline.headings text).map .heading)
  have hpre : ∀ k ∈ initial.checkers.take 5, k.rule ≠ .whitespace := by decide
  have hpost : ∀ k ∈ initial.checkers.drop 6, k.rule ≠ .whitespace := by decide
  refine ⟨(runFrom isFile lines heads (initial.checkers.take 5)).1,
    (runFrom isFile lines heads (initial.checkers.drop 6)).1, fun c => ?_⟩
  apply Prod.ext
  · rw [lintText_fst, carrying_checkers, runFrom_fst, List.flatMap_append, List.flatMap_cons,
      ← runFrom_fst, ← runFrom_fst, List.append_assoc]
    rfl
  · show (⟨(runFrom isFile lines heads (carrying c).checkers).2⟩ : Linter) = _
    rw [carrying_checkers, runFrom_snd, List.map_append, List.map_cons, map_check_snd _ _ _ hpre,
      map_check_snd _ _ _ hpost]
    rfl

theorem lintText_carrying_length (c : Nat) (isFile : String → Bool) (text : String) :
    ((carrying c).lintText isFile text).1.length +
        Spacing.flaggedLeading 0 (Spacing.leadingBlanks (Text.lines text)) =
      (initial.lintText isFile text).1.length +
        Spacing.flaggedLeading c (Spacing.leadingBlanks (Text.lines text)) := by
  obtain ⟨pre, post, h⟩ := lintText_carrying isFile text
  obtain ⟨X, hX⟩ := Spacing.scanFrom_ok .warning (Text.lines text).toArray 0 c (Text.lines text)
  obtain ⟨Y, hY⟩ := Spacing.scanFrom_ok .warning (Text.lines text).toArray 0 0 (Text.lines text)
  have hlen := Spacing.scanFrom_length .warning _ true 0 c 0 _ hX hY
  rw [← carrying_zero, h c, h 0, Spacing.findings_lines, Spacing.findings_lines, hX, hY]
  simp only [findingsOf, List.length_append]
  omega

theorem lintText_carrying_eq_iff (c : Nat) (isFile : String → Bool) (text : String) :
    ((carrying c).lintText isFile text).1 = (initial.lintText isFile text).1 ↔
      ¬ Spacing.CountShows c (Text.lines text) := by
  obtain ⟨pre, post, h⟩ := lintText_carrying isFile text
  obtain ⟨X, hX⟩ := Spacing.scanFrom_ok .warning (Text.lines text).toArray 0 c (Text.lines text)
  obtain ⟨Y, hY⟩ := Spacing.scanFrom_ok .warning (Text.lines text).toArray 0 0 (Text.lines text)
  rw [← carrying_zero, h c, h 0, List.append_cancel_right_eq, List.append_cancel_left_eq,
    Spacing.findings_lines, Spacing.findings_lines, ← Spacing.scanFrom_eq_fresh_iff, hX, hY]
  simp [findingsOf]

end Linter

namespace Cli

open Linter

def fileText (disk : Disk) (path : String) : Option String :=
  match disk.read (normalPath path) with
  | .ok bytes => (readText bytes).toOption
  | .error _ => none

def blankRunAfterFile (disk : Disk) (c : Nat) (path : String) : Nat :=
  match fileText disk path with
  | some text => (Spacing.findings .warning (.entries ((Text.lines text).map .line)) c).2
  | none => c

variable (disk : Disk)

theorem lintFile_of_text {path text : String} (h : fileText disk path = some text) (l : Linter) :
    lintFile disk l path =
      ((l.lintText disk.isFile text).1.map (·.inFile path), (l.lintText disk.isFile text).2) := by
  unfold fileText at h
  dsimp only [lintFile]
  split at h
  · rename_i bytes hread
    cases hr : readText bytes with
    | error e => simp [hr, Except.toOption] at h
    | ok t =>
      simp only [hr, Except.toOption, Option.some.injEq] at h
      subst h
      simp only [hread, hr]
  · cases h

theorem lintFile_of_none {path : String} (h : fileText disk path = none) :
    ∃ fs, ∀ l, lintFile disk l path = (fs, l) := by
  unfold fileText at h
  dsimp only [lintFile]
  split at h
  · rename_i bytes hread
    cases hr : readText bytes with
    | error e => exact ⟨[failedFile path e.message], fun l => by simp only [hread, hr]⟩
    | ok t => simp [hr, Except.toOption] at h
  · rename_i f hread
    exact ⟨[failedFile path (f.message (normalPath path))], fun l => by simp only [hread]⟩

theorem lintFile_carrying_snd (c : Nat) (path : String) :
    (lintFile disk (carrying c) path).2 = carrying (blankRunAfterFile disk c path) := by
  cases h : fileText disk path with
  | none =>
    obtain ⟨fs, hfs⟩ := lintFile_of_none disk h
    simp [hfs, blankRunAfterFile, h]
  | some text =>
    obtain ⟨pre, post, hl⟩ := lintText_carrying disk.isFile text
    simp [lintFile_of_text disk h, hl, blankRunAfterFile, h]

theorem lintFile_carrying_eq_iff (c : Nat) (path : String) :
    (lintFile disk (carrying c) path).1 = (lintFile disk initial path).1 ↔
      ∀ text, fileText disk path = some text → ¬ Spacing.CountShows c (Text.lines text) := by
  cases h : fileText disk path with
  | none =>
    obtain ⟨fs, hfs⟩ := lintFile_of_none disk h
    simp [hfs]
  | some text =>
    simp only [lintFile_of_text disk h, Option.some.injEq, forall_eq']
    constructor
    · intro heq
      have hlen := congrArg List.length heq
      have hrel := lintText_carrying_length c disk.isFile text
      simp only [List.length_map] at hlen
      exact (Spacing.flaggedLeading_eq_zero_iff c _).1 (by omega)
    · intro hc
      rw [(lintText_carrying_eq_iff c disk.isFile text).2 hc]

theorem lintFile_carrying_length (c : Nat) (path : String) :
    (lintFile disk initial path).1.length ≤ (lintFile disk (carrying c) path).1.length := by
  cases h : fileText disk path with
  | none =>
    obtain ⟨fs, hfs⟩ := lintFile_of_none disk h
    simp [hfs]
  | some text =>
    have hrel := lintText_carrying_length c disk.isFile text
    have hle := Spacing.flaggedLeading_zero_le c (Spacing.leadingBlanks (Text.lines text))
    simp only [lintFile_of_text disk h, List.length_map]
    omega

theorem lintFiles_cons_fst (l : Linter) (path : String) (paths : List String) :
    (lintFiles disk l (path :: paths)).1 =
      (lintFile disk l path).1 ++ (lintFiles disk (lintFile disk l path).2 paths).1 := rfl

theorem lintFiles_carrying_snd :
    ∀ (c : Nat) (paths : List String),
      (lintFiles disk (carrying c) paths).2 = carrying (paths.foldl (blankRunAfterFile disk) c)
  | _, [] => rfl
  | c, path :: paths => by
    show (lintFiles disk (lintFile disk (carrying c) path).2 paths).2 = _
    rw [lintFile_carrying_snd, lintFiles_carrying_snd, List.foldl_cons]

theorem lintFiles_carrying_length :
    ∀ (c : Nat) (paths : List String),
      (paths.flatMap fun p => (lintFile disk initial p).1).length ≤
        (lintFiles disk (carrying c) paths).1.length
  | _, [] => le_refl _
  | c, path :: paths => by
    rw [lintFiles_cons_fst, lintFile_carrying_snd, List.flatMap_cons, List.length_append,
      List.length_append]
    have h1 := lintFile_carrying_length disk c path
    have h2 := lintFiles_carrying_length (blankRunAfterFile disk c path) paths
    omega

theorem append_eq_append_iff_of_length_le {α : Type} {A A' B B' : List α}
    (h : B.length ≤ A.length) (h' : B'.length ≤ A'.length) :
    A ++ A' = B ++ B' ↔ A = B ∧ A' = B' := by
  constructor
  · intro heq
    have hlen := congrArg List.length heq
    simp only [List.length_append] at hlen
    exact List.append_inj heq (by omega)
  · rintro ⟨rfl, rfl⟩
    rfl

theorem lintFiles_carrying_eq_iff :
    ∀ (c : Nat) (paths : List String),
      (lintFiles disk (carrying c) paths).1 = paths.flatMap (fun p => (lintFile disk initial p).1) ↔
        ∀ pre p post, paths = pre ++ p :: post → ∀ text, fileText disk p = some text →
          ¬ Spacing.CountShows (pre.foldl (blankRunAfterFile disk) c) (Text.lines text)
  | _, [] => by simp [lintFiles]
  | c, path :: paths => by
    rw [lintFiles_cons_fst, lintFile_carrying_snd, List.flatMap_cons,
      append_eq_append_iff_of_length_le (lintFile_carrying_length disk c path)
        (lintFiles_carrying_length disk _ paths),
      lintFile_carrying_eq_iff, lintFiles_carrying_eq_iff]
    constructor
    · rintro ⟨hfirst, hrest⟩ pre p post heq text ht
      -- the file is either the first one, with the count `c`, or one of the rest
      cases pre with
      | nil =>
        obtain ⟨rfl, rfl⟩ := List.cons_eq_cons.1 heq
        exact hfirst text ht
      | cons q pre =>
        simp only [List.cons_append, List.cons.injEq] at heq
        obtain ⟨rfl, heq⟩ := heq
        exact hrest pre p post heq text ht
    · intro h
      exact ⟨fun text ht => h [] path paths rfl text ht,
        fun pre p post heq text ht => h (path :: pre) p post (by rw [heq]; rfl) text ht⟩

/-- What a call of a linter without configuration keeps from the calls before it. The linter it
leaves is the initial one carrying the count of blank lines the files end with. The call gives
what a fresh linter gives, and that is what fresh linters give file by file, exactly when no
readable file starts with blank lines that the count carried into it (from this linter, or from a
fresh one) shows on. A configuration the linter took without fault, applied again to the linter it
gave, leaves that linter as it is exactly when no rule right after a dropped one is changed by its
entry. -/
theorem lintCall_matches_fresh_iff (c : Nat) (files : List String) :
    (lintCall disk none (carrying c) files).1.2 = carrying (files.foldl (blankRunAfterFile disk) c) ∧
    ((lintCall disk none (carrying c) files).1.1 = (lintCall disk none initial files).1.1 ∧
        (lintCall disk none initial files).1.1 =
          files.flatMap (fun p => (lintCall disk none initial [p]).1.1) ↔
      ∀ pre p post, files = pre ++ p :: post → ∀ text, fileText disk p = some text →
        ¬ Spacing.CountShows (pre.foldl (blankRunAfterFile disk) c) (Text.lines text) ∧
        ¬ Spacing.CountShows (pre.foldl (blankRunAfterFile disk) 0) (Text.lines text)) ∧
    ∀ {l l' : Linter} {g : Graph}, l.configure g = (l', none) →
      (l'.configure g = (l', none) ↔ l.checkers.IsChain (SettledAfterDrop g (rulesEntry g))) := by
  have hone : ∀ p, (lintFiles disk initial [p]).1 = (lintFile disk initial p).1 :=
    fun p => List.append_nil _
  have hc := lintFiles_carrying_eq_iff disk c files
  have h0 := lintFiles_carrying_eq_iff disk 0 files
  rw [carrying_zero] at h0
  refine ⟨lintFiles_carrying_snd disk c files, ?_, fun h => configure_configure_iff h⟩
  show (lintFiles disk (carrying c) files).1 = (lintFiles disk initial files).1 ∧
      (lintFiles disk initial files).1 = files.flatMap (fun p => (lintFiles disk initial [p]).1) ↔ _
  simp only [hone]
  constructor
  · rintro ⟨heq, h0eq⟩ pre p post hsplit text ht
    exact ⟨hc.1 (heq.trans h0eq) pre p post hsplit text ht, h0.1 h0eq pre p post hsplit text ht⟩
  · intro h
    have h1 := hc.2 fun pre p post hs text ht => (h pre p post hs text ht).1
    have h2 := h0.2 fun pre p post hs text ht => (h pre p post hs text ht).2
    exact ⟨h1.trans h2.symm, h2⟩

/-! ### A configuration file that faults -/

theorem applyConfig_of_load {path : String} {bytes : ByteArray} {g : Graph} (l : Linter)
    (hread : disk.read path = .ok bytes) (hload : Yaml.load (Yaml.Source.ofBytes bytes) = .ok g) :
    applyConfig disk l path = ((l.configure g).1, (l.configure g).2.map Fault.message) := by
  unfold applyConfig
  simp only [hread, hload]
  rcases l.configure g with ⟨l', _ | f⟩ <;> rfl

theorem lintCall_after_config_fault {path : String} {bytes : ByteArray} {g : Graph}
    {l l' : Linter} {f : Fault} (files : List String) (hpath : path ≠ "")
    (hread : disk.read path = .ok bytes) (hload : Yaml.load (Yaml.Source.ofBytes bytes) = .ok g)
    (h : l.configure g = (l', some f)) :
    lintCall disk (some path) l files = (lintFiles disk l' files, some f.message) := by
  have happly := applyConfig_of_load disk l hread hload
  have hne : path.isEmpty = false := by simpa using hpath
  rw [h] at happly
  simp only [lintCall, hne, Bool.false_eq_true, if_false, happly, Option.map_some]

theorem run_after_config_fault {args : List String} {s : Settings} {path name : String}
    {bytes : ByteArray} {g : Graph} {l' : Linter} {f : Fault}
    (hargs : readArguments args = .run s) (hcfg : s.config = some path) (hpath : path ≠ "")
    (hfmt : s.format = some name) (hread : disk.read path = .ok bytes)
    (hload : Yaml.load (Yaml.Source.ofBytes bytes) = .ok g) (h : initial.configure g = (l', some f)) :
    run disk args = .ok
      { stdout := "Error loading config file: " ++ f.message ++ "\n" ++
          Report.render ((Format.ofName? name).getD .console) (lintFiles disk l' s.files).1 ++ "\n",
        exitCode := Report.exitCode (lintFiles disk l' s.files).1 } := by
  have hcall := lintCall_after_config_fault disk s.files hpath hread hload h
  rw [← hcfg] at hcall
  simp only [run, hargs, hcall, hfmt]

def holding (text : String) : Disk := ⟨fun _ => .ok text.toUTF8, fun _ => true⟩

theorem lintCall_matches_fresh_iff_blank_seam :
    (lintCall (holding "\nx\n\n\n") none initial ["a.adoc", "a.adoc"]).1.1 ≠
        ["a.adoc", "a.adoc"].flatMap
          (fun p => (lintCall (holding "\nx\n\n\n") none initial [p]).1.1) ∧
      ¬ initial.checkers.IsChain (SettledAfterDrop dropsTwoInARow (rulesEntry dropsTwoInARow)) := by
  have hcall := lintCall_matches_fresh_iff (holding "\nx\n\n\n") 0 ["a.adoc", "a.adoc"]
  rw [carrying_zero] at hcall
  obtain ⟨-, hfiles, hconf⟩ := hcall
  have htext : fileText (holding "\nx\n\n\n") "a.adoc" = some "\nx\n\n\n" := by decide +kernel
  have hshows : Spacing.CountShows ((["a.adoc"]).foldl (blankRunAfterFile (holding "\nx\n\n\n")) 0)
      (Text.lines "\nx\n\n\n") := by decide +kernel
  have hnone : (initial.configure dropsTwoInARow).2.isNone = true := by decide +kernel
  have hlen : ((initial.configure dropsTwoInARow).1.configure dropsTwoInARow).1.checkers.length ≠
      (initial.configure dropsTwoInARow).1.checkers.length := by decide +kernel
  constructor
  · intro heq
    exact (hfiles.1 ⟨rfl, heq⟩ ["a.adoc"] "a.adoc" [] rfl _ htext).2 hshows
  · intro hchain
    have hfirst : initial.configure dropsTwoInARow = ((initial.configure dropsTwoInARow).1, none) :=
      Prod.ext rfl (Option.isNone_iff_eq_none.1 hnone)
    exact hlen (by rw [(hconf hfirst).2 hchain])

end Cli

end AdocLint
