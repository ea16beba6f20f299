import AdocLint.Proofs.Dispatch
import AdocLint.Document

/-! The open delimiters are those seen an odd number of times, so the termination rule reports the
last line of each odd delimiter and the spacing rule looks around openers and closers. -/

namespace AdocLint

namespace Blocks

def occurrences (d : String) (lines : List String) : Nat := lines.countP (Text.trim · == d)

theorem occurrences_concat (d s : String) (seen : List String) :
    occurrences d (seen ++ [s]) = occurrences d seen + if Text.trim s = d then 1 else 0 := by
  simp [occurrences, List.countP_append]

theorem occurrences_eq_zero {d : String} {lines : List String} :
    occurrences d lines = 0 ↔ ∀ x ∈ lines, Text.trim x ≠ d := by
  simp [occurrences, List.countP_eq_zero]

structure Tracks (opened seen : List String) : Prop where
  nodup : opened.Nodup
  open_iff : ∀ d, (blockName? d).isSome → (d ∈ opened ↔ occurrences d seen % 2 = 1)

namespace Tracks

variable {opened seen : List String} {s : String}

theorem nil : Tracks [] [] :=
  ⟨List.nodup_nil, fun d _ => by simp [occurrences]⟩

theorem skip (h : Tracks opened seen) (hs : blockName? (Text.trim s) = none) :
    Tracks opened (seen ++ [s]) := by
  refine ⟨h.nodup, fun d hd => ?_⟩
  have hne : Text.trim s ≠ d := by
    rintro rfl
    simp [hs] at hd
  rw [h.open_iff d hd, occurrences_concat, if_neg hne, Nat.add_zero]

theorem close (h : Tracks opened seen) (hd : (blockName? (Text.trim s)).isSome)
    (hm : Text.trim s ∈ opened) : Tracks (opened.erase (Text.trim s)) (seen ++ [s]) := by
  have hodd := (h.open_iff _ hd).1 hm
  refine ⟨h.nodup.erase _, fun d hd' => ?_⟩
  rw [h.nodup.mem_erase_iff, occurrences_concat]
  by_cases hds : Text.trim s = d
  · subst hds
    simp only [ne_eq, not_true_eq_false, false_and, if_true, false_iff]
    omega
  · rw [if_neg hds, Nat.add_zero, ← h.open_iff d hd']
    exact ⟨fun h' => h'.2, fun h' => ⟨Ne.symm hds, h'⟩⟩

theorem even_of_not_mem (h : Tracks opened seen) {d : String} (hd : (blockName? d).isSome)
    (hm : d ∉ opened) : occurrences d seen % 2 = 0 := by
  have := mt (h.open_iff d hd).2 hm
  omega

theorem open_ (h : Tracks opened seen) (hd : (blockName? (Text.trim s)).isSome)
    (hm : Text.trim s ∉ opened) : Tracks (Text.trim s :: opened) (seen ++ [s]) := by
  have heven := h.even_of_not_mem hd hm
  refine ⟨List.nodup_cons.2 ⟨hm, h.nodup⟩, fun d hd' => ?_⟩
  rw [List.mem_cons, occurrences_concat]
  by_cases hds : Text.trim s = d
  · subst hds
    simp only [true_or, if_true, true_iff]
    omega
  · rw [if_neg hds, Nat.add_zero, ← h.open_iff d hd']
    exact ⟨fun h' => h'.resolve_left (Ne.symm hds), Or.inr⟩

end Tracks

def unterminatedAt (lines : List String) (i : Nat) (s : String) : Option Finding :=
  (blockName? (Text.trim s)).bind fun name =>
    if occurrences (Text.trim s) lines % 2 = 1 ∧ ∀ x ∈ lines.drop (i + 1), Text.trim x ≠ Text.trim s
    then some (Finding.atLine "BLOCK001" .error (i + 1) s!"Unterminated {name} starting" (.str s))
    else none

theorem unterminatedAt_cons (seen rest : List String) (s : String) (name : String)
    (hname : blockName? (Text.trim s) = some name) :
    unterminatedAt (seen ++ s :: rest) seen.length s =
      if occurrences (Text.trim s) seen % 2 = 0 ∧ ∀ x ∈ rest, Text.trim x ≠ Text.trim s
      then some (Finding.atLine "BLOCK001" .error (seen.length + 1)
        s!"Unterminated {name} starting" (.str s))
      else none := by
  have hdrop : (seen ++ s :: rest).drop (seen.length + 1) = rest := by
    simp [List.drop_append]
  have hocc : occurrences (Text.trim s) (seen ++ s :: rest) =
      occurrences (Text.trim s) seen + 1 + occurrences (Text.trim s) rest := by
    simp only [occurrences, List.countP_append, List.countP_cons, beq_self_eq_true, if_true]
    omega
  simp only [unterminatedAt, hname, Option.bind_some, hdrop, hocc]
  by_cases hlast : ∀ x ∈ rest, Text.trim x ≠ Text.trim s
  · rw [(occurrences_eq_zero.2 hlast)]
    by_cases heven : occurrences (Text.trim s) seen % 2 = 0
    · rw [if_pos ⟨by omega, hlast⟩, if_pos ⟨heven, hlast⟩]
    · rw [if_neg (by omega), if_neg (by omega)]
  · rw [if_neg (fun h => hlast h.2), if_neg (fun h => hlast h.2)]

theorem unterminatedFrom_tracks {opened seen : List String} (h : Tracks opened seen)
    (rest : List String) :
    unterminatedFrom opened seen.length (rest.map .line) =
      .ok ((rest.zipIdx seen.length).filterMap fun (s, i) => unterminatedAt (seen ++ rest) i s) := by
  induction rest generalizing opened seen with
  | nil => rfl
  | cons s rest ih =>
    -- the walk goes on from the line after `s`, with `s` among the lines seen
    have step : ∀ {opened'}, Tracks opened' (seen ++ [s]) →
        unterminatedFrom opened' (seen.length + 1) (rest.map .line) =
          .ok ((rest.zipIdx (seen.length + 1)).filterMap fun (x, i) =>
            unterminatedAt (seen ++ s :: rest) i x) := by
      intro opened' h'
      have ht := ih h'
      rwa [List.length_append, List.length_singleton, List.append_assoc, List.singleton_append]
        at ht
    simp only [List.map_cons, unterminatedFrom, List.zipIdx_cons, List.filterMap_cons]
    rcases hname : blockName? (Text.trim s) with _ | name
    · simp only [step (h.skip hname), unterminatedAt, hname, Option.bind_none]
    · have hd : (blockName? (Text.trim s)).isSome := by simp [hname]
      by_cases hm : Text.trim s ∈ opened
      · -- a closer: its delimiter has been seen an odd number of times
        have hodd := (h.open_iff _ hd).1 hm
        simp only [List.contains_iff_mem, hm, if_true, step (h.close hd hm),
          unterminatedAt_cons seen rest s name hname]
        rw [if_neg (by omega)]
      · -- an opener: reported when no later line closes it
        have heven := h.even_of_not_mem hd hm
        simp only [List.contains_iff_mem, hm, if_false, closedLater_lines, step (h.open_ hd hm),
          bind, Except.bind, pure, Except.pure, unterminatedAt_cons seen rest s name hname]
        by_cases hlast : ∀ x ∈ rest, Text.trim x ≠ Text.trim s
        · have hany : rest.any (Text.trim · == Text.trim s) = false := by simpa using hlast
          rw [hany, if_pos (And.intro heven hlast)]
          rfl
        · have hany : rest.any (Text.trim · == Text.trim s) = true := by simpa using hlast
          rw [hany, if_neg (fun h : _ ∧ _ => hlast h.2)]
          rfl

def followedAt (i : Nat) : Option String → List Finding
  | some n => if crowds (Text.trim n) then
      [Finding.atLine "BLOCK002" .warning (i + 2) "Block should be followed by a blank line" (.str n)]
    else []
  | none => []

def precededAt (i : Nat) (s : String) : Option String → List Finding
  | some p => if crowds (Text.trim p) then
      [Finding.atLine "BLOCK002" .warning (i + 1) "Block should be preceded by a blank line" (.str s)]
    else []
  | none => []

def spacingAt (lines : List String) (i : Nat) (s : String) : List Finding :=
  if (blockName? (Text.trim s)).isNone then []
  else if occurrences (Text.trim s) (lines.take i) % 2 = 1 then followedAt i (lines.drop (i + 1)).head?
  else precededAt i s (lines.take i).getLast?

theorem spacingAt_cons (seen rest : List String) (s : String) :
    spacingAt (seen ++ s :: rest) seen.length s =
      if (blockName? (Text.trim s)).isNone then []
      else if occurrences (Text.trim s) seen % 2 = 1 then followedAt seen.length rest.head?
      else precededAt seen.length s seen.getLast? := by
  have htake : (seen ++ s :: rest).take seen.length = seen := by simp
  have hdrop : (seen ++ s :: rest).drop (seen.length + 1) = rest := by simp [List.drop_append]
  rw [spacingAt, htake, hdrop]

theorem spacingFrom_tracks {opened seen : List String} (h : Tracks opened seen)
    (rest : List String) :
    spacingFrom opened (seen.getLast?.map .line) seen.length (rest.map .line) =
      .ok ((rest.zipIdx seen.length).flatMap fun (s, i) => spacingAt (seen ++ rest) i s) := by
  induction rest generalizing opened seen with
  | nil => rfl
  | cons s rest ih =>
    -- the walk goes on from the line after `s`, with `s` as the line before
    have step : ∀ {opened'}, Tracks opened' (seen ++ [s]) →
        spacingFrom opened' (some (.line s)) (seen.length + 1) (rest.map .line) =
          .ok ((rest.zipIdx (seen.length + 1)).flatMap fun (x, i) =>
            spacingAt (seen ++ s :: rest) i x) := by
      intro opened' h'
      have ht := ih h'
      rwa [List.length_append, List.length_singleton, List.append_assoc, List.singleton_append,
        List.getLast?_concat, Option.map_some] at ht
    simp only [List.map_cons, spacingFrom, List.zipIdx_cons, List.flatMap_cons,
      spacingAt_cons seen rest s]
    rcases hname : blockName? (Text.trim s) with _ | name
    · simp only [Option.isNone_none, if_true, step (h.skip hname), List.nil_append]
    · have hd : (blockName? (Text.trim s)).isSome := by simp [hname]
      by_cases hm : Text.trim s ∈ opened
      · -- a closer: its delimiter has been seen an odd number of times, and it looks ahead
        have hodd := (h.open_iff _ hd).1 hm
        simp only [Option.isNone_some, Bool.false_eq_true, if_false, List.contains_iff_mem, hm,
          if_true, hodd, step (h.close hd hm), bind, Except.bind, pure, Except.pure]
        cases rest with
        | nil => rfl
        | cons n rest => rfl
      · have heven : ¬occurrences (Text.trim s) seen % 2 = 1 := mt (h.open_iff _ hd).2 hm
        simp only [Option.isNone_some, Bool.false_eq_true, if_false, List.contains_iff_mem, hm,
          heven, step (h.open_ hd hm), bind, Except.bind, pure, Except.pure]
        cases seen.getLast? with
        | none => rfl
        | some p => rfl

theorem dropBlanksEnd_cons {c : Char} (hc : Text.isBlank c = false) (cs : List Char) :
    ∃ r, Text.dropBlanksEnd (c :: cs) = c :: r := by
  unfold Text.dropBlanksEnd
  rw [List.reverse_cons, List.dropWhile_append]
  split
  · exact ⟨[], by simp [hc]⟩
  · exact ⟨(cs.reverse.dropWhile Text.isBlank).reverse, by simp⟩

theorem crowds_trim_of_equals {l : String} {cs : List Char} (hl : l.toList = '=' :: cs) :
    crowds (Text.trim l) = false := by
  have heq : Text.isBlank '=' = false := rfl
  obtain ⟨r, hr⟩ := dropBlanksEnd_cons heq cs
  have ht : (Text.trim l).toList = '=' :: r := by
    simp [Text.trim, Text.trimChars, hl, heq, hr]
  simp [crowds, String.startsWith_string_iff, ht]

theorem crowds_heading {n : Nat} {l : String} {h : Heading} (hh : Outline.heading? n l = some h) :
    crowds (Text.trim l) = false := by
  have hlevel : 0 < (l.toList.takeWhile (· == '=')).length := by
    unfold Outline.heading? at hh
    dsimp only at hh
    split at hh
    · rename_i hcond
      simp only [Bool.and_eq_true, decide_eq_true_eq] at hcond
      exact hcond.1.1
    · cases hh
  cases hl : l.toList with
  | nil => simp [hl] at hlevel
  | cons c cs =>
    rw [hl, List.takeWhile_cons] at hlevel
    split at hlevel
    · rename_i hc
      rw [beq_iff_eq.1 hc] at hl
      exact crowds_trim_of_equals hl
    · simp at hlevel

end Blocks

namespace Checker

/-- The termination rule, on a text, a record whose `content` is a text, or a list of lines,
reports in line order the last line of each delimiter that occurs an odd number of times, and
nothing else. -/
theorem check_unterminated_odd_last {c : Checker} (hc : c.rule = .unterminatedBlock)
    (isFile : String → Bool) {doc : Document} {lines : List String}
    (hdoc : doc.lineEntries = .ok (lines.map .line)) :
    (c.check isFile doc).1 = .ok (lines.zipIdx.filterMap fun (s, i) =>
      (Blocks.blockName? (Text.trim s)).bind fun name =>
        if Blocks.occurrences (Text.trim s) lines % 2 = 1 ∧
            ∀ x ∈ lines.drop (i + 1), Text.trim x ≠ Text.trim s
        then some (Finding.atLine "BLOCK001" .error (i + 1) s!"Unterminated {name} starting" (.str s))
        else none) := by
  have hrun := Blocks.unterminatedFrom_tracks Blocks.Tracks.nil lines
  simp only [List.length_nil, List.nil_append] at hrun
  simp only [check, hc, hdoc, bind, Except.bind, Blocks.unterminatedFindings]
  exact hrun

theorem check_unterminated_odd_last_text :
    (ofRule .unterminatedBlock).rule = .unterminatedBlock ∧
      (Document.text "----\nx\n====\n----\n----").lineEntries =
        .ok (["----", "x", "====", "----", "----"].map .line) ∧
      ((ofRule .unterminatedBlock).check (fun _ => false)
          (.text "----\nx\n====\n----\n----")).1 =
        .ok (["----", "x", "====", "----", "----"].zipIdx.filterMap fun (s, i) =>
          (Blocks.blockName? (Text.trim s)).bind fun name =>
            if Blocks.occurrences (Text.trim s) ["----", "x", "====", "----", "----"] % 2 = 1 ∧
                ∀ x ∈ ["----", "x", "====", "----", "----"].drop (i + 1), Text.trim x ≠ Text.trim s
            then some (Finding.atLine "BLOCK001" .error (i + 1) s!"Unterminated {name} starting"
              (.str s))
            else none) :=
  ⟨rfl, rfl, check_unterminated_odd_last rfl _ rfl⟩

/-- The spacing rule, on a text, a record whose `content` is a text, or a list of lines, looks
before each opening delimiter and after each closing one, the occurrences of each delimiter
alternating between the two; a neighbour is accepted when it is blank or starts, trimmed, with
`=`, which every heading does. -/
theorem check_spacing_neighbours {c : Checker} (hc : c.rule = .blockSpacing)
    (isFile : String → Bool) {doc : Document} {lines : List String}
    (hdoc : doc.lineEntries = .ok (lines.map .line)) :
    (c.check isFile doc).1 = .ok (lines.zipIdx.flatMap fun (s, i) => Blocks.spacingAt lines i s) ∧
      ∀ n l h, Outline.heading? n l = some h → Blocks.crowds (Text.trim l) = false := by
  have hrun := Blocks.spacingFrom_tracks Blocks.Tracks.nil lines
  simp only [List.length_nil, List.nil_append, List.getLast?_nil, Option.map_none] at hrun
  refine ⟨?_, fun _ _ _ hh => Blocks.crowds_heading hh⟩
  simp only [check, hc, hdoc, bind, Except.bind, Blocks.spacingFindings]
  exact hrun

theorem check_spacing_neighbours_nested :
    (ofRule .blockSpacing).rule = .blockSpacing ∧
      (Document.entries (["====", "----", "x", "----", "===="].map .line)).lineEntries =
        .ok (["====", "----", "x", "----", "===="].map .line) ∧
      (((ofRule .blockSpacing).check (fun _ => false)
          (.entries (["====", "----", "x", "----", "===="].map .line))).1 =
        .ok (["====", "----", "x", "----", "===="].zipIdx.flatMap fun (s, i) =>
          Blocks.spacingAt ["====", "----", "x", "----", "===="] i s) ∧
        ∀ n l h, Outline.heading? n l = some h → Blocks.crowds (Text.trim l) = false) :=
  ⟨rfl, rfl, check_spacing_neighbours rfl _ rfl⟩

end Checker

end AdocLint
