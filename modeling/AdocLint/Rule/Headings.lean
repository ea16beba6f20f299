import AdocLint.Rule.Basic
import AdocLint.Document
import AdocLint.Text.Lowercase

/-! Heading rules: the format of a heading line, the hierarchy of levels, and a single top heading.
-/

namespace AdocLint.Headings

def formatParts? (line : String) : Option (Nat × Bool × List Char) :=
  let cs := line.toList
  let level := (cs.takeWhile (· == '=')).length
  let afterRun := cs.drop level
  let gap := (afterRun.takeWhile Text.isBlank).length
  let rest := afterRun.drop gap
  if level = 0 || rest.dropLast.contains '\n' then none
  else
    let title := if rest.getLast? == some '\n' then rest.dropLast else rest
    some (level, 0 < gap, title)

def formatLine (i : Nat) (line : String) : List Finding :=
  match formatParts? line with
  | none => []
  | some (level, spaced, title) =>
    let at_ (s : Severity) (m : String) := Finding.atLine "HEAD002" s (i + 1) m (.str line)
    (if spaced then [] else
      [at_ .error ("Missing space after " ++ String.ofList (List.replicate level '='))]) ++
    (match title.head? with
      | some c => if Text.isLowercase c then
          [at_ .warning "Heading should start with uppercase letter"] else []
      | none => [])

def formatFindings (lines : List Entry) : List Finding :=
  lines.zipIdx.flatMap fun (e, i) =>
    match e with
    | .line s => formatLine i s
    | _ => []

def level? (line : String) : Option Nat :=
  let cs := line.toList
  let level := (cs.takeWhile (· == '=')).length
  match cs.drop level with
  | c :: _ => if 0 < level && Text.isBlank c then some level else none
  | [] => none

def hierarchyFrom (current : Nat) : List (Nat × Nat × String) → List Finding
  | [] => []
  | (level, i, line) :: rest =>
    (if current + 1 < level then
      [Finding.atLine "HEAD001" .error (i + 1)
        s!"Heading level skipped: found h{level} after h{current}" (.str line)]
    else []) ++ hierarchyFrom level rest

def leveled (lines : List Entry) : List (Nat × Nat × String) :=
  lines.zipIdx.filterMap fun (e, i) =>
    match e with
    | .line s => (level? s).map fun l => (l, i, s)
    | _ => none

def hierarchyFindings (lines : List Entry) : List Finding :=
  match leveled lines with
  | [] => []
  | (level, _, _) :: rest => hierarchyFrom level rest

def isTopHeading (line : String) : Bool :=
  match line.toList with
  | '=' :: c :: _ => Text.isBlank c
  | _ => false

def topLevelFindings (lines : List Entry) : List Finding :=
  let tops := lines.zipIdx.filterMap fun (e, i) =>
    match e with
    | .line s => if isTopHeading s then some (i, s) else none
    | _ => none
  match tops with
  | [] => []
  | (i, first) :: rest =>
    rest.map fun (j, s) =>
      Finding.atLine "HEAD003" .error (j + 1)
        s!"Multiple top-level headings found. First heading at line {i + 1}: '{Text.trim first}'"
        (.str s)

end AdocLint.Headings
