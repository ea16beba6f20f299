import Mathlib.Data.List.Basic
import AdocLint.Report

/-! A console report groups the findings by file, in the order files first appear, and shows each
finding once, under its file, in its order. -/

namespace AdocLint.Report

def heading : Option String → String
  | some f => if f.isEmpty then "Results without file:" else s!"Results for {f}:"
  | none => "Results without file:"

def findingLine (colored : Bool) (f : Finding) : String :=
  if f.location.isEmpty then paint colored "31" "✗" ++ " " ++ f.message
  else paint colored "31" "✗" ++ " " ++ f.location ++ ": " ++ f.message

/-! ### The files of a report -/

theorem foldl_files (fs : List Finding) (acc : List (Option String)) :
    fs.foldl (fun acc f => if acc.contains f.file then acc else acc ++ [f.file]) acc =
      acc ++ ((fs.map Finding.file).filter fun k => !acc.contains k).eraseDups := by
  induction fs generalizing acc with
  | nil => simp
  | cons f rest ih =>
    rw [List.foldl_cons, List.map_cons]
    by_cases h : acc.contains f.file = true
    · -- a file seen before adds no key
      rw [if_pos h, ih, List.filter_cons_of_neg (by simpa using h)]
    · -- a new file is the next key, and is passed over from then on
      rw [if_neg h, ih, List.filter_cons_of_pos (by simpa using h), List.eraseDups_cons,
        List.filter_filter, List.append_assoc, List.singleton_append]
      congr 3
      apply List.filter_congr
      intro k _
      simp only [List.contains_append, List.contains_cons, List.contains_nil, Bool.or_false,
        Bool.not_or, Bool.and_comm]

theorem nodup_foldl_files (fs : List Finding) (acc : List (Option String)) (h : acc.Nodup) :
    (fs.foldl (fun acc f => if acc.contains f.file then acc else acc ++ [f.file]) acc).Nodup := by
  induction fs generalizing acc with
  | nil => exact h
  | cons f rest ih =>
    rw [List.foldl_cons]
    split
    · exact ih acc h
    · rename_i hf
      apply ih
      refine List.nodup_append.2 ⟨h, List.nodup_cons.2 ⟨List.not_mem_nil, List.nodup_nil⟩, ?_⟩
      rintro a ha b hb rfl
      rw [List.mem_singleton] at hb
      exact hf (List.contains_iff_mem.2 (hb ▸ ha))

theorem foldl_files_nil (fs : List Finding) :
    fs.foldl (fun acc f => if acc.contains f.file then acc else acc ++ [f.file]) [] =
      (fs.map Finding.file).eraseDups := by
  rw [foldl_files]
  simp [List.filter_true]

theorem nodup_files (fs : List Finding) : (fs.map Finding.file).eraseDups.Nodup := by
  rw [← foldl_files_nil]
  exact nodup_foldl_files fs [] List.nodup_nil

/-! ### Groups and the console report -/

theorem groups_eq (fs : List Finding) :
    groups fs = (fs.map Finding.file).eraseDups.map fun k => (k, fs.filter (·.file == k)) := by
  rw [groups, foldl_files_nil]

theorem filter_file_of_ne {k k' : Option String} (hne : k' ≠ k) (fs : List Finding) :
    fs.filter (·.file == k') = (fs.filter fun f => !(f.file == k)).filter (·.file == k') := by
  rw [List.filter_filter]
  apply List.filter_congr
  intro f _
  by_cases h : f.file = k'
  · subst h
    simp [hne]
  · simp [h]

theorem flatMap_filter_file_perm (fs : List Finding) (ks : List (Option String))
    (hks : ks.Nodup) (hcov : ∀ f ∈ fs, f.file ∈ ks) :
    (ks.flatMap fun k => fs.filter (·.file == k)).Perm fs := by
  induction ks generalizing fs with
  | nil =>
    cases fs with
    | nil => exact List.Perm.refl _
    | cons f _ => exact absurd (hcov f List.mem_cons_self) List.not_mem_nil
  | cons k ks ih =>
    obtain ⟨hk, hks⟩ := List.nodup_cons.1 hks
    -- the later files find their findings among those of other files than `k`
    have hrest : (ks.flatMap fun k' => fs.filter (·.file == k')) =
        ks.flatMap fun k' => (fs.filter fun f => !(f.file == k)).filter (·.file == k') :=
      List.flatMap_congr fun k' hk' => filter_file_of_ne (fun he : k' = k => hk (he ▸ hk')) fs
    have hcov' : ∀ f ∈ fs.filter (fun f => !(f.file == k)), f.file ∈ ks := by
      intro f hf
      rw [List.mem_filter] at hf
      have hne : f.file ≠ k := by simpa using hf.2
      exact (List.mem_cons.1 (hcov f hf.1)).resolve_left hne
    rw [List.flatMap_cons, hrest]
    exact ((ih _ hks hcov').append_left _).trans (List.filter_append_perm _ fs)

theorem text_eq_groups (c : Bool) (fs : List Finding) (h : fs ≠ []) :
    text c fs = "\n".intercalate ((groups fs).flatMap fun g =>
      heading g.1 :: g.2.map (findingLine c) ++ ["\n"]) := by
  rw [text, if_neg (by simpa using h)]
  rfl

/-- A report's groups are its distinct files in the order they first appear, each with its
findings in their order; these findings are all of the report's, each once; and a console report
of some findings shows, group after group, the file's heading, a line per finding and an empty
line. -/
theorem text_partitions_by_file (c : Bool) (fs : List Finding) :
    groups fs = (fs.map Finding.file).eraseDups.map (fun k => (k, fs.filter (·.file == k))) ∧
      ((fs.map Finding.file).eraseDups.flatMap fun k => fs.filter (·.file == k)).Perm fs ∧
      (fs ≠ [] → text c fs = "\n".intercalate ((fs.map Finding.file).eraseDups.flatMap fun k =>
        heading k :: (fs.filter (·.file == k)).map (findingLine c) ++ ["\n"])) := by
  refine ⟨groups_eq fs, flatMap_filter_file_perm fs _ (nodup_files fs) ?_, fun h => ?_⟩
  · intro f hf
    exact List.mem_eraseDups.2 (List.mem_map_of_mem hf)
  · rw [text_eq_groups c fs h, groups_eq, List.flatMap_map]

theorem text_partitions_by_file_interleaved :
    let fs : List Finding := [
      { message := "x", rating := .level .error, file := some "a.adoc" },
      { message := "y", rating := .level .warning },
      { message := "z", rating := .level .info, file := some "" },
      { message := "w", rating := .level .error, file := some "a.adoc" }]
    fs ≠ [] ∧ text false fs = "\n".intercalate ((fs.map Finding.file).eraseDups.flatMap fun k =>
      heading k :: (fs.filter (·.file == k)).map (findingLine false) ++ ["\n"]) := by
  intro fs
  have h : fs ≠ [] := List.cons_ne_nil _ _
  exact ⟨h, (text_partitions_by_file false fs).2.2 h⟩

example : (groups [{ message := "x", rating := .level .error, file := some "a.adoc" },
      { message := "y", rating := .level .warning },
      { message := "z", rating := .level .info, file := some "" },
      { message := "w", rating := .level .error, file := some "a.adoc" }]).map Prod.fst =
      [some "a.adoc", none, some ""] := by rfl

end AdocLint.Report
