import AdocLint.Proofs.MarkdownTableRows
import AdocLint.Proofs.Dispatch
import AdocLint.Proofs.BlankRuns

/-! Where the findings of a lint stand and what they quote, and the severities they carry. -/

namespace AdocLint

def Quotes (lines : List String) (f : Finding) : Prop :=
  ∃ (i : Nat) (s : String), lines[i]? = some s ∧ f.position.map (·.line) = some ((i : Int) + 1) ∧
    f.context = .str s

def IsShortAltNote (f : Finding) : Prop :=
  f.rule = some "IMG001" ∧ f.rating = .level .info ∧
    ∃ kind path : String, f.message = s!"Alt text too short for {kind} image: {path}"

def Rated (sev : Severity) (f : Finding) : Prop :=
  f.rating = .level sev ∨ IsShortAltNote f

theorem quotes_atLine {lines : List String} {i : Nat} {s : String} (h : lines[i]? = some s)
    (code : String) (sev : Severity) (m : String) :
    Quotes lines (Finding.atLine code sev (i + 1) m (.str s)) :=
  ⟨i, s, h, by simp [Finding.atLine], rfl⟩

theorem rated_atLine (code : String) (sev : Severity) (n : Nat) (m : String) (v : Value) :
    Rated sev (Finding.atLine code sev n m v) :=
  .inl rfl

namespace Spacing

variable {sev : Severity} {texts : Array String} {lines : List String}

theorem lineFindings_quotes {i : Nat} {s : String} (hs : lines[i]? = some s) {run : Nat}
    {fs : List Finding} (h : (lineFindings sev texts true i s run).1 = .ok fs) :
    ∀ f ∈ fs, Quotes lines f ∧ Rated sev f := by
  obtain ⟨ms, -, rfl⟩ := map_eq_ok h
  intro f hf
  obtain ⟨m, -, rfl⟩ := List.mem_map.1 hf
  exact ⟨quotes_atLine hs _ _ _, rated_atLine _ _ _ _ _⟩

theorem scanFrom_quotes : ∀ (i run : Nat) (rest : List String), lines.drop i = rest →
    ∀ fs, (scanFrom sev texts true i run rest).1 = .ok fs → ∀ f ∈ fs, Quotes lines f ∧ Rated sev f
  | _, _, [], _, fs, h => by
    cases h
    simp
  | i, run, s :: rest, hd, fs, h => by
    rw [scanFrom_cons_fst] at h
    obtain ⟨here, hh, h⟩ := bind_eq_ok h
    obtain ⟨later, hl, rfl⟩ := map_eq_ok h
    have hs : lines[i]? = some s := by
      rw [← Nat.add_zero i, ← List.getElem?_drop, hd]
      rfl
    have hrest : lines.drop (i + 1) = rest := by
      rw [← List.drop_drop, hd]
      rfl
    intro f hf
    rcases List.mem_append.1 hf with hf | hf
    · exact lineFindings_quotes hs hh f hf
    · exact scanFrom_quotes (i + 1) _ rest hrest later hl f hf

theorem findings_quotes (run : Nat) {fs : List Finding}
    (h : (findings sev (.entries (lines.map .line)) run).1 = .ok fs) :
    ∀ f ∈ fs, Quotes lines f ∧ Rated sev f := by
  rw [findings_lines] at h
  exact scanFrom_quotes 0 run lines (List.drop_zero) fs h

end Spacing

namespace Images

variable {sev : Severity} {isFile : String → Bool}

theorem imageIssues_rated {kind path : String} {attrs : Attributes} :
    ∀ p ∈ imageIssues sev isFile kind path attrs,
      p.1 = sev ∨ (p.1 = .info ∧ ∃ kind path : String,
        p.2 = s!"Alt text too short for {kind} image: {path}") := by
  intro p hp
  simp only [imageIssues, List.mem_append] at hp
  rcases hp with (hp | hp) | hp
  · left
    split at hp
    · cases hp
    · split at hp
      · cases hp
      · rw [List.mem_singleton] at hp
        rw [hp]
  · split at hp
    · split at hp
      · rw [List.mem_singleton] at hp
        exact .inl (by rw [hp])
      · split at hp
        · rw [List.mem_singleton] at hp
          exact .inr ⟨by rw [hp], kind, path, by rw [hp]⟩
        · cases hp
    · rw [List.mem_singleton] at hp
      exact .inl (by rw [hp])
  · left
    split at hp
    · rw [List.mem_singleton] at hp
      rw [hp]
    · cases hp

theorem lineFindings_quotes {lines : List String} {i : Nat} {s : String}
    (hs : lines[i]? = some s) : ∀ f ∈ lineFindings sev isFile i s, Quotes lines f ∧ Rated sev f := by
  intro f hf
  simp only [lineFindings] at hf
  obtain ⟨⟨sev', m⟩, hp, rfl⟩ := List.mem_map.1 hf
  refine ⟨quotes_atLine hs _ _ _, ?_⟩
  -- every issue comes from one image, a block image or one of the inline images
  have hissue : sev' = sev ∨ (sev' = .info ∧ ∃ kind path : String,
      m = s!"Alt text too short for {kind} image: {path}") := by
    split at hp
    · exact imageIssues_rated _ hp
    · obtain ⟨_, -, hp⟩ := List.mem_flatMap.1 hp
      exact imageIssues_rated _ hp
  rcases hissue with rfl | ⟨rfl, kind, path, rfl⟩
  · exact rated_atLine _ _ _ _ _
  · exact .inr ⟨rfl, rfl, kind, path, rfl⟩

theorem findings_headings_quotes (hs : List Heading) :
    ∀ f ∈ findings sev isFile (.entries (hs.map .heading)),
      Quotes (hs.map (·.content)) f ∧ Rated sev f := by
  intro f hf
  simp only [findings, Document.scanEntries] at hf
  obtain ⟨⟨e, i⟩, he, hf⟩ := List.mem_flatMap.1 hf
  obtain ⟨hi, he⟩ := List.mem_zipIdx' he
  rw [List.length_map] at hi
  have hc : (hs.map (·.content))[i]? = some e.text := by
    simp [he, Entry.text, hi]
  exact lineFindings_quotes hc f hf

end Images

namespace Verbatim

theorem getElem?_of_mem_outside {lines : List String} {i : Nat} {s : String}
    (h : (i, s) ∈ outside lines) : lines[i]? = some s := by
  rw [outside_eq_unmasked] at h
  obtain ⟨⟨⟨s', i'⟩, m⟩, hm, he⟩ := List.mem_map.1 h
  simp only [Prod.mk.injEq] at he
  obtain ⟨rfl, rfl⟩ := he
  obtain ⟨hi, hs⟩ := List.mem_zipIdx' (List.of_mem_zip (List.mem_filter.1 hm).1).1
  simp [hs]

theorem scan_findings {check : Nat → String → List Finding} {lines : List String}
    {P : Finding → Prop} (h : ∀ i s, lines[i]? = some s → ∀ f ∈ check i s, P f) :
    ∀ f ∈ scan check lines, P f := by
  intro f hf
  obtain ⟨⟨i, s⟩, hmem, hf⟩ := List.mem_flatMap.1 hf
  exact h i s (getElem?_of_mem_outside hmem) f hf

end Verbatim

theorem Rule.lineCheck_quotes (r : Rule) (sev : Severity) {lines : List String} {i : Nat}
    {s : String} (hs : lines[i]? = some s) :
    ∀ f ∈ r.lineCheck sev i s, Quotes lines f ∧ Rated sev f := by
  intro f hf
  cases r
  case markdownSyntax =>
    simp only [Rule.lineCheck, Markdown.lineFindings] at hf
    split at hf
    · cases hf
    · obtain ⟨⟨m, col⟩, -, rfl⟩ := List.mem_map.1 hf
      exact ⟨⟨i, s, hs, rfl, rfl⟩, .inl rfl⟩
  case numberedList | definitionList | counterInTitle =>
    simp only [Rule.lineCheck, Lists.numberedLineFindings, Lists.definitionLineFindings,
      Counters.lineFindings] at hf
    split at hf
    · cases hf
    · split at hf
      · rw [List.mem_singleton] at hf
        subst hf
        exact ⟨quotes_atLine hs _ _ _, rated_atLine _ _ _ _ _⟩
      · cases hf
  all_goals cases hf

theorem MarkdownTables.findings_quotes (sev : Severity) (lines : List String) :
    ∀ f ∈ findings sev lines, Quotes lines f ∧ Rated sev f := by
  have hat : ∀ m i, i < lines.length →
      Quotes lines (tableFinding sev lines m i) ∧ Rated sev (tableFinding sev lines m i) := by
    intro m i hi
    have hs : lines[i]? = some (lines.getD i "") := by
      simp [hi, List.getD_eq_getElem?_getD]
    exact ⟨quotes_atLine hs _ _ _, rated_atLine _ _ _ _ _⟩
  rw [findings_eq]
  intro f hf
  rcases List.mem_append.1 hf with hf | hf
  · obtain ⟨i, hi, rfl⟩ := List.mem_map.1 hf
    exact hat _ i (mem_separators.1 hi).1
  · obtain ⟨j, hj, rfl⟩ := List.mem_map.1 hf
    exact hat _ j (List.mem_range.1 (List.mem_filter.1 hj).1)

theorem Rule.ofCode?_code (r : Rule) : Rule.ofCode? r.code = some r := by
  cases r <;> decide

theorem Rule.eq_of_code_eq {r r' : Rule} (h : r.code = r'.code) : r = r' := by
  have hc := Rule.ofCode?_code r
  rw [h, Rule.ofCode?_code] at hc
  exact (Option.some.inj hc).symm

namespace Outline

theorem heading?_eq_some {n : Nat} {line : String} {h : Heading} (hh : heading? n line = some h) :
    h.line = n ∧ h.content = line := by
  simp only [heading?] at hh
  split at hh
  · cases hh
    exact ⟨rfl, rfl⟩
  · cases hh

theorem headingsFrom_lines : ∀ (n : Nat) (ls : List String),
    ∀ h ∈ headingsFrom n ls, n ≤ h.line ∧ ls[h.line - n]? = some h.content
  | _, [] => by simp [headingsFrom]
  | n, l :: ls => by
    intro h hh
    have later : ∀ h ∈ headingsFrom (n + 1) ls, n ≤ h.line ∧ (l :: ls)[h.line - n]? = some h.content := by
      intro h hh
      obtain ⟨hle, hget⟩ := headingsFrom_lines (n + 1) ls h hh
      refine ⟨by omega, ?_⟩
      rw [show h.line - n = h.line - (n + 1) + 1 by omega]
      exact hget
    unfold headingsFrom at hh
    split at hh
    · rcases List.mem_cons.1 hh with rfl | hh
      · obtain ⟨hline, hcontent⟩ := heading?_eq_some ‹_›
        simp [hline, hcontent]
      · exact later h hh
    · exact later h hh

theorem length_headingsFrom_le : ∀ (n : Nat) (ls : List String), (headingsFrom n ls).length ≤ ls.length
  | _, [] => by simp [headingsFrom]
  | n, l :: ls => by
    have ih := length_headingsFrom_le (n + 1) ls
    unfold headingsFrom
    split <;> simp only [List.length_cons] <;> omega

theorem quotes_headings {text : String} {f : Finding}
    (hq : Quotes ((headings text).map (·.content)) f) :
    ∃ (k : Nat) (h : Heading), k < (Text.lines text).length ∧ (headings text)[k]? = some h ∧
      f.position.map (·.line) = some ((k : Int) + 1) ∧ f.context = .str h.content ∧
      (Text.lines text)[h.line - 1]? = some h.content := by
  obtain ⟨i, s, hs, hpos, hctx⟩ := hq
  obtain ⟨h, hh, rfl⟩ : ∃ h, (headings text)[i]? = some h ∧ h.content = s := by
    simpa using hs
  have hline := headingsFrom_lines 1 (Text.lines text) h (List.mem_of_getElem? hh)
  -- there are no more headings than lines
  have hlen : i < (Text.lines text).length :=
    Nat.lt_of_lt_of_le (List.getElem?_eq_some_iff.1 hh).1
      (length_headingsFrom_le 1 (Text.lines text))
  exact ⟨i, h, hlen, hh, hpos, hctx, hline.2⟩

end Outline

namespace Linter

theorem check_in_lint {k : Checker} (hk : k.rule ∈ lintRules) (isFile : String → Bool)
    (text : String) :
    ∀ f ∈ findingsOf (k.check isFile (if k.walksEntries then .entries ((Text.lines text).map .line)
        else .entries ((Outline.headings text).map .heading))).1,
      Quotes (if k.rule = .imageAttributes then (Outline.headings text).map (·.content)
        else Text.lines text) f ∧ Rated k.severity f := by
  intro f hf
  rcases k with ⟨r, sev, en, run⟩
  cases r
  case headingFormat | headingHierarchy | singleTopHeading | unterminatedBlock | blockSpacing =>
    -- the heading and block checkers find nothing among the headings
    simp [Checker.check, Checker.walksEntries, findingsOf, Document.lineEntries, Except.map, bind,
      Except.bind, Headings.formatFindings_headings, Headings.hierarchyFindings_headings,
      Headings.topLevelFindings_headings, Blocks.unterminatedFindings,
      Blocks.unterminatedFrom_headings, Blocks.spacingFindings, Blocks.spacingFrom_headings] at hf
  case whitespace =>
    cases en
    · simp [Checker.check, findingsOf] at hf
    · simp only [Checker.check, Checker.walksEntries, if_true, findingsOf] at hf
      show Quotes (Text.lines text) f ∧ Rated sev f
      split at hf
      · exact Spacing.findings_quotes run ‹_› f hf
      · cases hf
  case imageAttributes =>
    simp only [Checker.check, Checker.walksEntries, findingsOf] at hf
    show Quotes ((Outline.headings text).map (·.content)) f ∧ Rated sev f
    exact Images.findings_headings_quotes _ f hf
  case markdownSyntax | numberedList | definitionList | counterInTitle =>
    -- the checkers of single lines, over the lines outside verbatim blocks
    cases en
    · simp [Checker.check, findingsOf] at hf
    · simp only [Checker.check, Checker.walksEntries, if_true, findingsOf,
        Checker.scanTexts_lines] at hf
      show Quotes (Text.lines text) f ∧ Rated sev f
      exact Verbatim.scan_findings (fun i s hs => Rule.lineCheck_quotes _ _ hs) f hf
  case markdownTable =>
    cases en
    · simp [Checker.check, findingsOf] at hf
    · simp only [Checker.check, Checker.walksEntries, if_true, findingsOf,
        Checker.scanTexts_lines] at hf
      show Quotes (Text.lines text) f ∧ Rated sev f
      exact MarkdownTables.findings_quotes _ _ f hf
  all_goals simp [lintRules] at hk

theorem mem_lintText {l : Linter} {isFile : String → Bool} {text : String} {f : Finding}
    (hf : f ∈ (l.lintText isFile text).1) :
    ∃ k ∈ l.checkers, f ∈ findingsOf (k.check isFile (if k.walksEntries
      then .entries ((Text.lines text).map .line)
      else .entries ((Outline.headings text).map .heading))).1 := by
  rw [lintText_fst, runFrom_fst] at hf
  exact List.mem_flatMap.1 hf

/-- Every finding of a lint lies within the text's lines. The image rule's findings sit on the
rank of their heading among the headings and quote the heading, which stands at its own line of
the text; every other finding sits on the line it quotes. -/
theorem lintText_finding_places (isFile : String → Bool) (text : String) :
    ∀ f ∈ (initial.lintText isFile text).1,
      (∃ k < (Text.lines text).length, f.position.map (·.line) = some ((k : Int) + 1)) ∧
      (f.rule ≠ some "IMG001" → Quotes (Text.lines text) f) ∧
      (f.rule = some "IMG001" → ∃ (k : Nat) (h : Heading), (Outline.headings text)[k]? = some h ∧
        f.position.map (·.line) = some ((k : Int) + 1) ∧ f.context = .str h.content ∧
        (Text.lines text)[h.line - 1]? = some h.content) := by
  intro f hf
  obtain ⟨k, hk, hf⟩ := mem_lintText hf
  obtain ⟨r, hr, rfl⟩ := List.mem_map.1 hk
  have hcode : f.rule = some r.code := findingsOf_names _ isFile _ f hf
  obtain ⟨hq, -⟩ := check_in_lint hr isFile text f hf
  rw [show (Checker.ofRule r).rule = r from rfl] at hq
  by_cases himg : r = .imageAttributes
  · subst himg
    rw [if_pos rfl] at hq
    obtain ⟨i, h, hlen, hh, hpos, hctx, hline⟩ := Outline.quotes_headings hq
    exact ⟨⟨i, hlen, hpos⟩, fun hne => absurd hcode hne, fun _ => ⟨i, h, hh, hpos, hctx, hline⟩⟩
  · rw [if_neg himg] at hq
    obtain ⟨i, s, hs, hpos, hctx⟩ := hq
    refine ⟨⟨i, (List.getElem?_eq_some_iff.1 hs).1, hpos⟩, fun _ => ⟨i, s, hs, hpos, hctx⟩, ?_⟩
    intro himg'
    rw [hcode, Option.some.injEq] at himg'
    exact absurd (@Rule.eq_of_code_eq r .imageAttributes himg') himg

def imageUnderText : String := "x\n= T image:a.png[]"

theorem lintText_finding_places_heading_image :
    ∃ f ∈ (initial.lintText (fun _ => false) imageUnderText).1, f.rule = some "IMG001" ∧
      (∃ k < (Text.lines imageUnderText).length, f.position.map (·.line) = some ((k : Int) + 1)) ∧
      (f.rule ≠ some "IMG001" → Quotes (Text.lines imageUnderText) f) ∧
      (f.rule = some "IMG001" → ∃ (k : Nat) (h : Heading),
        (Outline.headings imageUnderText)[k]? = some h ∧
        f.position.map (·.line) = some ((k : Int) + 1) ∧ f.context = .str h.content ∧
        (Text.lines imageUnderText)[h.line - 1]? = some h.content) := by
  have himg : (initial.lintText (fun _ => false) imageUnderText).1.any
      (·.rule == some "IMG001") = true := by
    decide +kernel
  obtain ⟨f, hf, hr⟩ := List.any_eq_true.1 himg
  exact ⟨f, hf, beq_iff_eq.1 hr, lintText_finding_places _ _ f hf⟩

end Linter

end AdocLint
