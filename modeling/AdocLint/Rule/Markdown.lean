import AdocLint.Rule.Basic
import AdocLint.Text.Blank
import AdocLint.Text.WordChar

/-! The Markdown syntax rule, and the verbatim blocks whose lines the Markdown rules leave alone. -/

namespace AdocLint.Markdown

def bracketLink (cs : List Char) : Option (List Char × List Char × Nat) :=
  let label := cs.takeWhile (· != ']')
  match cs.drop label.length with
  | ']' :: '(' :: r =>
    let target := r.takeWhile (· != ')')
    if !target.isEmpty && target.length < r.length then
      some (label, target, label.length + target.length + 3)
    else none
  | _ => none

def imageAt : List Char → Option (List Char × List Char × Nat)
  | '!' :: '[' :: r => (bracketLink r).map fun (a, p, k) => (a, p, k + 2)
  | _ => none

def linkAt : List Char → Option (List Char × List Char × Nat)
  | '[' :: r =>
    match bracketLink r with
    | some (t, u, k) => if t.isEmpty then none else some (t, u, k + 1)
    | none => none
  | _ => none

def matchesFrom (find : List Char → Option (List Char × List Char × Nat)) (i : Nat) :
    List Char → List (Nat × List Char × List Char)
  | [] => []
  | c :: cs =>
    match find (c :: cs) with
    | some (a, b, k) => (i, a, b) :: matchesFrom find (i + k) (cs.drop (k - 1))
    | none => matchesFrom find (i + 1) cs
termination_by cs => cs.length
decreasing_by all_goals simp only [List.length_drop, List.length_cons]; omega

def withoutImages : List Char → List Char
  | [] => []
  | c :: cs =>
    match imageAt (c :: cs) with
    | some (_, _, k) => withoutImages (cs.drop (k - 1))
    | none => c :: withoutImages cs
termination_by cs => cs.length
decreasing_by all_goals simp only [List.length_drop, List.length_cons]; omega

def headingLevel? (cs : List Char) : Option Nat :=
  let level := (cs.takeWhile (· == '#')).length
  if 1 ≤ level && level ≤ 6 && Text.blanksThenText (cs.drop level) then some level else none

def isBlockQuote (cs : List Char) : Bool :=
  let n := (cs.takeWhile (· == '>')).length
  1 ≤ n && Text.blanksThenText (cs.drop n)

def fenceLanguage? (t : List Char) : Option String :=
  match t with
  | '\x60' :: '\x60' :: '\x60' :: lang =>
    if lang.all Text.isWordChar then some (String.ofList lang) else none
  | _ => none

def lineIssues (line : String) : List (String × Option Nat) :=
  let cs := line.toList
  let heading := match headingLevel? cs with
    | some n =>
      let hashes := String.ofList (List.replicate n '#')
      let marks := String.ofList (List.replicate n '=')
      [(s!"Markdown heading detected: '{hashes} ' should be '{marks} ' in AsciiDoc", none)]
    | none => []
  let images := if Text.hasMacro "image:".toList cs then [] else
    (matchesFrom imageAt 0 cs).map fun (i, a, p) =>
      let a := String.ofList a
      let p := String.ofList p
      (s!"Markdown image detected: '![{a}]({p})' should be 'image::{p}[{a}]' in AsciiDoc",
        some (i + 1))
  let links := if Text.hasMacro "link:".toList cs then [] else
    (matchesFrom linkAt 0 (withoutImages cs)).map fun (i, t, u) =>
      let t := String.ofList t
      let u := String.ofList u
      (s!"Markdown link detected: '[{t}]({u})' should be 'link:{u}[{t}]' in AsciiDoc",
        some (i + 1))
  let fence := match fenceLanguage? (Text.trimChars cs) with
    | some lang =>
      let suggestion := if lang.isEmpty then "'----' (listing block)"
        else s!"'[source,{lang}]' followed by '----'"
      [(s!"Markdown code fence detected: '```{lang}' should be {suggestion} in AsciiDoc", none)]
    | none => []
  let quote := if isBlockQuote cs then
    [("Markdown blockquote detected: '> text' should be '[quote]' block or '____' delimiter in AsciiDoc",
      none)] else []
  heading ++ images ++ links ++ fence ++ quote

def passes (line : String) : Bool :=
  let t := Text.trim line
  t.isEmpty || t.startsWith "//" || t.startsWith ":" ||
    ["----", "====", "****", "....", "____"].contains t

def lineFindings (sev : Severity) (i : Nat) (line : String) : List Finding :=
  if passes line then [] else
    (lineIssues line).map fun (m, col) =>
      { message := m, rating := .level sev, position := some { line := i + 1, column := col },
        rule := some "FMT004", context := .str line }

end AdocLint.Markdown

namespace AdocLint.Verbatim

def isDelimiter (t : String) : Bool := t == "----" || t == "...." || t == "++++"

def outsideFrom (opened : Option String) (i : Nat) : List String → List (Nat × String)
  | [] => []
  | s :: rest =>
    let t := Text.trim s
    if isDelimiter t then
      match opened with
      | none => outsideFrom (some t) (i + 1) rest
      | some d => outsideFrom (if d == t then none else some d) (i + 1) rest
    else
      match opened with
      | none => (i, s) :: outsideFrom none (i + 1) rest
      | some _ => outsideFrom opened (i + 1) rest

def outside (lines : List String) : List (Nat × String) := outsideFrom none 0 lines

def scan {α : Type} (check : Nat → String → List α) (lines : List String) : List α :=
  (outside lines).flatMap fun (i, s) => check i s

end AdocLint.Verbatim
