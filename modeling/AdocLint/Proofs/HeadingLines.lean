import AdocLint.Document
import AdocLint.Proofs.LineChecks

/-! The outline's headings are exactly the heading rules' headings with a spaced title that is not
blank. -/

namespace AdocLint

def spacedTitle (line : String) : Bool :=
  let rest := line.toList.dropWhile (· == '=')
  rest.head? == some ' ' && rest.any (!Text.isBlank ·)

namespace Outline

theorem headingsFrom_eq_filterMap : ∀ (n : Nat) (ls : List String),
    headingsFrom n ls = (ls.zipIdx n).filterMap fun p => heading? p.2 p.1
  | _, [] => rfl
  | n, l :: ls => by
    rw [headingsFrom, List.zipIdx_cons, List.filterMap_cons, headingsFrom_eq_filterMap (n + 1) ls]
    cases heading? n l <;> rfl

theorem filter_spacedTitle (o : Option Nat) (i : Nat) (line : String) :
    (o.map fun v => (v, i, line)).filter (spacedTitle ·.2.2) =
      if spacedTitle line then o.map fun v => (v, i, line) else none := by
  cases o <;> by_cases hs : spacedTitle line <;> simp [Option.filter, hs]

theorem heading?_map (i : Nat) (line : String) :
    (heading? (i + 1) line).map (fun h => (h.level, h.line - 1, h.content)) =
      ((Headings.level? line).map fun v => (v, i, line)).filter (spacedTitle ·.2.2) := by
  rw [filter_spacedTitle]
  unfold heading? Headings.level? spacedTitle
  simp only [drop_length_takeWhile]
  generalize (line.toList.takeWhile (· == '=')).length = run
  generalize line.toList.dropWhile (· == '=') = rest
  rcases rest with _ | ⟨c, rest⟩
  · simp
  · by_cases hc : c = ' '
    · subst hc
      have hblank : Text.isBlank ' ' = true := by decide
      by_cases hrun : 0 < run <;>
        by_cases htitle : (' ' :: rest).any (!Text.isBlank ·) = true <;>
        simp_all [List.all_eq_not_any_not]
    · -- another character after the run: the outline reads no heading
      simp [hc]

end Outline

namespace Headings

theorem level?_eq_some_one_iff (line : String) :
    level? line = some 1 ↔ isTopHeading line = true := by
  unfold level? isTopHeading
  simp only [drop_length_takeWhile]
  rcases line.toList with _ | ⟨c, cs⟩
  · simp
  · by_cases hc : c = '='
    · subst hc
      rcases cs with _ | ⟨d, ds⟩
      · simp
      · by_cases hd : d = '='
        · -- a run of two or more `=` is deeper than the top level
          subst hd
          have hblank : Text.isBlank '=' = false := by decide
          simp only [List.takeWhile_cons, List.dropWhile_cons, beq_self_eq_true, if_true,
            List.length_cons, hblank]
          split <;> simp
        · have hne : (d == '=') = false := by simpa using hd
          simp [hne]
    · have hne : (c == '=') = false := by simpa using hc
      simp only [List.takeWhile_cons, List.dropWhile_cons, hne]
      split <;> simp_all

theorem top_of_leveled (i : Nat) (line : String) :
    ((((level? line).map fun v => (v, i, line)).filter (spacedTitle ·.2.2)).filter
        (·.1 == 1)).map (·.2.1) =
      if isTopHeading line && spacedTitle line then some i else none := by
  have hiff := level?_eq_some_one_iff line
  rcases hl : level? line with _ | v
  · have hnot : isTopHeading line = false := by
      simpa [hl] using hiff
    simp [hnot]
  · by_cases hv : v = 1
    · subst hv
      have htop : isTopHeading line = true := hiff.1 hl
      by_cases hs : spacedTitle line <;> simp [Option.filter, htop, hs]
    · -- a deeper heading is no top heading
      have hnot : isTopHeading line = false := by
        simpa [hl, hv] using hiff
      by_cases hs : spacedTitle line <;> simp [Option.filter, hnot, hs, hv]

end Headings

/-- The outline's headings are exactly the hierarchy rule's headings whose title is spaced, with
the same level, line and text, and the outline's top headings stand exactly at the lines that the
single-top-heading rule takes for top headings and whose title is spaced. -/
theorem Outline.headings_eq_spaced_leveled (s : String) :
    (Outline.headings s).map (fun h => (h.level, h.line - 1, h.content)) =
      (Headings.leveled ((Text.lines s).map .line)).filter (spacedTitle ·.2.2) ∧
    ((Outline.headings s).filter (·.level == 1)).map (·.line - 1) =
      ((Text.lines s).zipIdx.filter fun p => Headings.isTopHeading p.1 && spacedTitle p.1).map
        (·.2) := by
  have hlevels : (Outline.headings s).map (fun h => (h.level, h.line - 1, h.content)) =
      (Headings.leveled ((Text.lines s).map .line)).filter (spacedTitle ·.2.2) := by
    rw [Outline.headings, Outline.headingsFrom_eq_filterMap, List.map_filterMap,
      Headings.leveled, List.zipIdx_map, List.filterMap_map, List.filter_filterMap,
      List.zipIdx_succ, List.filterMap_map]
    congr 1
    funext p
    exact Outline.heading?_map p.2 p.1
  refine ⟨hlevels, ?_⟩
  -- the top headings are the headings of level one
  have htop : ((Outline.headings s).filter (·.level == 1)).map (·.line - 1) =
      (((Outline.headings s).map (fun h => (h.level, h.line - 1, h.content))).filter
        (·.1 == 1)).map (·.2.1) := by
    rw [List.filter_map, List.map_map]
    rfl
  rw [htop, hlevels, Headings.leveled, List.zipIdx_map, List.filterMap_map, List.filter_filterMap,
    List.filter_filterMap, List.map_filterMap, ← List.filterMap_eq_map, List.filterMap_filter]
  congr 1
  funext p
  exact Headings.top_of_leveled p.2 p.1

end AdocLint
