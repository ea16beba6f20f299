import AdocLint.Rule.Basic
import AdocLint.Text.Blank
import AdocLint.Text.Digit

/-! List rules: explicitly numbered items, and bold terms that imitate a definition list. -/

namespace AdocLint.Lists

def itemNumber? (cs : List Char) : Option String :=
  let digits := cs.takeWhile Text.isDigit
  match cs.drop digits.length with
  | '.' :: rest =>
    if !digits.isEmpty && Text.blanksThenText rest then some (String.ofList digits) else none
  | _ => none

def numberedLineFindings (sev : Severity) (i : Nat) (line : String) : List Finding :=
  let t := Text.trim line
  if t.isEmpty || t.startsWith "//" then [] else
    match itemNumber? line.toList with
    | some n =>
      [Finding.atLine "FMT001" sev (i + 1)
        s!"Explicit numbered list detected: '{n}. ' should be '. ' (AsciiDoc auto-numbered list syntax)"
        (.str line)]
    | none => []

def markedTerm? (marks : List Char) (cs : List Char) : Option (List Char) :=
  if marks.isPrefixOf cs then
    let r := cs.drop marks.length
    let term := r.takeWhile (· != '*')
    let after := r.drop term.length
    if !term.isEmpty && marks.isPrefixOf after then
      match after.drop marks.length with
      | ':' :: c :: _ => if Text.isBlank c then some term else none
      | _ => none
    else none
  else none

def listedTerm? (marker : Char) (cs : List Char) : Option (List Char) :=
  match cs with
  | c :: rest =>
    let gap := (rest.takeWhile Text.isBlank).length
    if c == marker && 0 < gap then markedTerm? ['*'] (rest.drop gap) else none
  | [] => none

def pseudoTerm? (cs : List Char) : Option (List Char) :=
  (markedTerm? ['*'] cs).orElse fun _ =>
    (markedTerm? ['*', '*'] cs).orElse fun _ =>
      (listedTerm? '-' cs).orElse fun _ => listedTerm? '*' cs

def definitionLineFindings (sev : Severity) (i : Nat) (line : String) : List Finding :=
  let t := Text.trim line
  if t.isEmpty || t.startsWith "//" || t.startsWith ":" ||
    (Text.contains line "::" && !t.startsWith "*") then []
  else
    match pseudoTerm? line.toList with
    | some cs =>
      let term := String.ofList cs
      [Finding.atLine "FMT002" sev (i + 1)
        s!"Non-semantic definition list detected: use '{term}:: ' (AsciiDoc definition list syntax) instead"
        (.str line)]
    | none => []

end AdocLint.Lists
