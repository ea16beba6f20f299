import AdocLint.Rule.Check

/-! Verbatim blocks mask their lines, so a rule that checks one line at a time reports what its line
check finds on the unmasked lines, in order. -/

namespace AdocLint

namespace Verbatim

def blockMask : List String → List Bool
  | [] => []
  | s :: rest =>
    let d := Text.trim s
    if isDelimiter d then
      match h : rest.dropWhile (Text.trim · != d) with
      | [] => List.replicate (rest.length + 1) true
      | _ :: after =>
        List.replicate ((rest.takeWhile (Text.trim · != d)).length + 2) true ++ blockMask after
    else false :: blockMask rest
termination_by lines => lines.length
decreasing_by
  · have hle : (rest.dropWhile (Text.trim · != d)).length ≤ rest.length :=
      (List.dropWhile_suffix _).length_le
    rw [h, List.length_cons] at hle
    simp only [List.length_cons]
    omega
  · simp only [List.length_cons]
    omega

def walkMask (opened : Option String) : List String → List Bool
  | [] => []
  | s :: rest =>
    let t := Text.trim s
    if isDelimiter t then
      true :: walkMask (match opened with
        | none => some t
        | some d => if d == t then none else some d) rest
    else opened.isSome :: walkMask opened rest

theorem outsideFrom_eq_filter (opened : Option String) (i : Nat) (lines : List String) :
    outsideFrom opened i lines =
      (((lines.zipIdx i).zip (walkMask opened lines)).filter (!·.2)).map
        fun ((s, j), _) => (j, s) := by
  induction lines generalizing opened i with
  | nil => rfl
  | cons s rest ih =>
    by_cases hd : isDelimiter (Text.trim s) = true
    · cases opened <;> simp [outsideFrom, walkMask, hd, ih]
    · cases opened <;> simp [outsideFrom, walkMask, hd, ih]

variable {d : String}

theorem walkMask_unclosed (hd : isDelimiter d = true) :
    ∀ {rest : List String}, rest.dropWhile (Text.trim · != d) = [] →
      walkMask (some d) rest = List.replicate rest.length true
  | [], _ => rfl
  | s :: rest, h => by
    by_cases hs : Text.trim s = d
    · simp [hs] at h
    · have h' : rest.dropWhile (Text.trim · != d) = [] := by simpa [hs] using h
      have ih := walkMask_unclosed hd h'
      by_cases hsd : isDelimiter (Text.trim s) = true
      · simp [walkMask, hsd, Ne.symm hs, ih, List.replicate_succ]
      · simp [walkMask, hsd, ih, List.replicate_succ]

theorem walkMask_closed (hd : isDelimiter d = true) {c : String} {after : List String} :
    ∀ {rest : List String}, rest.dropWhile (Text.trim · != d) = c :: after →
      walkMask (some d) rest =
        List.replicate ((rest.takeWhile (Text.trim · != d)).length + 1) true ++ walkMask none after
  | [], h => by simp at h
  | s :: rest, h => by
    by_cases hs : Text.trim s = d
    · simp only [hs, bne_self_eq_false, Bool.false_eq_true, not_false_eq_true,
        List.dropWhile_cons_of_neg, List.cons.injEq] at h
      obtain ⟨rfl, rfl⟩ := h
      simp [walkMask, hs, hd]
    · have h' : rest.dropWhile (Text.trim · != d) = c :: after := by simpa [hs] using h
      have ih := walkMask_closed hd h'
      by_cases hsd : isDelimiter (Text.trim s) = true
      · simp [walkMask, hsd, Ne.symm hs, ih, hs, List.replicate_succ]
      · simp [walkMask, hsd, ih, hs, List.replicate_succ]

theorem walkMask_none (lines : List String) : walkMask none lines = blockMask lines := by
  fun_induction blockMask lines with
  | case1 => rfl
  | case2 s rest d hd h =>
    rw [walkMask, if_pos hd, walkMask_unclosed hd h, List.replicate_succ]
  | case3 s rest d hd c after h ih =>
    rw [walkMask, if_pos hd, walkMask_closed hd h, ih]
    simp [List.replicate_succ]
  | case4 s rest d hd ih =>
    rw [walkMask, if_neg hd, ih]
    rfl

-- A literal-block delimiter inside a listing block neither opens nor closes anything.
example : blockMask ["a", "----", "....", "----", "b", "++++", "c"] =
    [false, true, true, true, false, true, true] := by
  decide +kernel

theorem outside_eq_unmasked (lines : List String) :
    outside lines =
      ((lines.zipIdx.zip (blockMask lines)).filter (!·.2)).map fun ((s, i), _) => (i, s) := by
  rw [outside, outsideFrom_eq_filter, walkMask_none]

theorem scan_eq_unmasked {α : Type} (check : Nat → String → List α) (lines : List String) :
    scan check lines =
      ((lines.zipIdx.zip (blockMask lines)).filter (!·.2)).flatMap fun ((s, i), _) => check i s := by
  rw [scan, outside_eq_unmasked, List.flatMap_map]

end Verbatim

namespace Checker

theorem scanTexts_lines (lines : List String) : scanTexts (.entries (lines.map .line)) = lines := by
  simp [scanTexts, Document.scanEntries, Function.comp_def, Entry.text]

/-- An enabled rule that checks one line at a time reports what its line check finds on each
line outside the verbatim blocks, in line order. -/
theorem check_eq_unmasked_lines {c : Checker}
    (hr : c.rule ∈ [Rule.markdownSyntax, .numberedList, .definitionList, .counterInTitle])
    (he : c.enabled = true) (isFile : String → Bool) (lines : List String) :
    (c.check isFile (.entries (lines.map .line))).1 =
      .ok (((lines.zipIdx.zip (Verbatim.blockMask lines)).filter (!·.2)).flatMap
        fun ((s, i), _) => c.rule.lineCheck c.severity i s) := by
  have hscan : (c.check isFile (.entries (lines.map .line))).1 =
      .ok (Verbatim.scan (c.rule.lineCheck c.severity) lines) := by
    simp only [List.mem_cons, List.not_mem_nil, or_false] at hr
    rcases hr with hr | hr | hr | hr <;> simp [check, hr, he, scanTexts_lines]
  rw [hscan, Verbatim.scan_eq_unmasked]

theorem check_eq_unmasked_lines_listing :
    Rule.markdownSyntax ∈ [Rule.markdownSyntax, .numberedList, .definitionList, .counterInTitle] ∧
      (ofRule .markdownSyntax).enabled = true ∧
      ((ofRule .markdownSyntax).check (fun _ => false)
          (.entries (["----", "# a", "....", "----", "# b"].map .line))).1 =
        .ok (((["----", "# a", "....", "----", "# b"].zipIdx.zip
            (Verbatim.blockMask ["----", "# a", "....", "----", "# b"])).filter (!·.2)).flatMap
          fun ((s, i), _) => Rule.markdownSyntax.lineCheck .warning i s) :=
  ⟨by decide, rfl, check_eq_unmasked_lines (by decide) rfl _ _⟩

end Checker

end AdocLint
