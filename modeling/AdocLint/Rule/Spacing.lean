import AdocLint.Rule.Basic
import AdocLint.Document
import AdocLint.Text.Blank

/-! The whitespace rule, line by line, with its count of blank lines in a row carried from one
document to the next. -/

namespace AdocLint.Spacing

def hasRun (c : Char) (m : Nat) (run : Nat) : List Char → Bool
  | [] => m ≤ run
  | d :: ds => m ≤ run || (if d = c then hasRun c m (run + 1) ds else hasRun c m 0 ds)

def isBold (s : String) : Bool :=
  let cs := s.toList
  let m := (cs.takeWhile (· == '*')).length
  let rest := cs.drop m
  !rest.isEmpty && rest.contains '*' && hasRun '*' m 0 rest

def isDelimiter (stripped : List Char) : Bool :=
  let r := Text.dropBlanksEnd stripped
  r == "----".toList || r == "****".toList || r == "....".toList ||
    (4 ≤ stripped.length && match stripped with
      | c :: _ => r.all (· == c)
      | [] => false)

def gluedMarker? (content : String) : Option String :=
  let stripped := content.toList.dropWhile Text.isBlank
  match stripped with
  | c :: _ =>
    if (c == '*' || c == '-' || c == '.') && !isDelimiter stripped then
      let count := (stripped.takeWhile (· == c)).length
      let after := stripped.drop count
      if !after.isEmpty && after.head? != some ' ' && !(c == '*' && isBold (String.ofList stripped))
      then some (String.ofList (List.replicate count c)) else none
    else none
  | [] => none

def neighbour (texts : Array String) (byPosition : Bool) (j : Nat) : Except Fault String :=
  if byPosition then .ok (texts.getD j "") else .error (.missingKey (.int j))

def crowdsTitleAfter (t : String) : Bool := !t.isEmpty && !t.startsWith ":"

def crowdsTitleBefore (t : String) : Bool :=
  !t.isEmpty && !Text.startsWithAny t ["[.", "[["]

def titleMessages (texts : Array String) (byPosition : Bool) (n i : Nat) (content : String) :
    Except Fault (List String) := do
  let cs := content.toList
  let level := (cs.takeWhile (· == '=')).length
  let rest := cs.drop level
  if level = 0 then return []
  if rest.head? == some ' ' && !(rest.all Text.isBlank) then
    let before ← if 0 < i then do
        let p ← neighbour texts byPosition (i - 1)
        pure (if crowdsTitleBefore (Text.trim p) then
          ["Section title should be preceded by a blank line"] else [])
      else pure []
    let after ← if i + 1 < n then do
        let q ← neighbour texts byPosition (i + 1)
        pure (if crowdsTitleAfter (Text.trim q) then
          ["Section title should be followed by a blank line"] else [])
      else pure []
    return before ++ after
  else if !rest.isEmpty && rest.head? != some ' ' && !(rest.all Text.isBlank) then
    return ["Missing space after " ++ String.ofList (List.replicate level '=')]
  else return []

def admonitions : List String := ["NOTE:", "TIP:", "IMPORTANT:", "WARNING:", "CAUTION:"]

def admonitionMessages (texts : Array String) (byPosition : Bool) (i : Nat) (content : String) :
    Except Fault (List String) := do
  if Text.startsWithAny (Text.trim content) admonitions && 0 < i then
    let p ← neighbour texts byPosition (i - 1)
    if Text.isBlankText p then return []
    else return ["Admonition block should be preceded by a blank line"]
  else return []

def lineFindings (sev : Severity) (texts : Array String) (byPosition : Bool) (i : Nat)
    (content : String) (run : Nat) : Except Fault (List Finding) × Nat :=
  let blank := Text.isBlankText content
  let run' := if blank then run + 1 else 0
  let messages : Except Fault (List String) := do
    let title ← titleMessages texts byPosition texts.size i content
    let admonition ← admonitionMessages texts byPosition i content
    return (if blank && 2 < run' then ["Too many consecutive empty lines"] else []) ++
      ((gluedMarker? content).map fun m => "Missing space after the marker '" ++ m ++ "'").toList ++
      (if Text.trimEnd content != content then ["Line contains trailing whitespace"] else []) ++
      (if content.toList.contains '\t' then ["Line contains tabs (use spaces instead)"] else []) ++
      title ++ admonition
  (messages.map (·.map fun m => Finding.atLine "WS001" sev (i + 1) m (.str content)), run')

def scanFrom (sev : Severity) (texts : Array String) (byPosition : Bool) (i : Nat) (run : Nat) :
    List String → Except Fault (List Finding) × Nat
  | [] => (.ok [], run)
  | s :: rest =>
    match lineFindings sev texts byPosition i s run with
    | (.error f, run') => (.error f, run')
    | (.ok fs, run') =>
      let (later, run'') := scanFrom sev texts byPosition (i + 1) run' rest
      (later.map (fs ++ ·), run'')

def findings (sev : Severity) (doc : Document) (run : Nat) : Except Fault (List Finding) × Nat :=
  let texts := (doc.scanEntries.map Entry.text)
  scanFrom sev texts.toArray doc.byPosition 0 run texts

end AdocLint.Spacing
