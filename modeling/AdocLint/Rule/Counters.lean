import AdocLint.Rule.Basic
import AdocLint.Text.Blank

/-! The counter rule: a section title that uses a counter attribute is reported. -/

namespace AdocLint.Counters

def counterAt (cs : List Char) : Option (List Char) :=
  let opening := "\x7bcounter".toList
  if opening.isPrefixOf cs then
    let r := cs.drop opening.length
    let body := match r with
      | '2' :: ':' :: b => some b
      | ':' :: b => some b
      | _ => none
    match body with
    | some b =>
      let name := b.takeWhile (· != '\x7d')
      if !name.isEmpty && name.length < b.length then some name else none
    | none => none
  else none

def lastCounter? (cs : List Char) : Option (List Char) :=
  (List.range (cs.takeWhile (· != '\n')).length).foldl
    (fun acc k => (counterAt (cs.drop k)).orElse fun _ => acc) none

def titleCounter? (cs : List Char) : Option String :=
  let level := (cs.takeWhile (· == '=')).length
  let afterRun := cs.drop level
  let gap := (afterRun.takeWhile Text.isBlank).length
  if 0 < level && 0 < gap then
    (lastCounter? (afterRun.drop gap)).map fun name => String.ofList (name.takeWhile (· != ':'))
  else none

def lineFindings (sev : Severity) (i : Nat) (line : String) : List Finding :=
  let t := Text.trim line
  if t.isEmpty || !t.startsWith "=" then [] else
    match titleCounter? line.toList with
    | some name =>
      [Finding.atLine "FMT003" sev (i + 1)
        ("Counter syntax in section title detected: '\x7bcounter:" ++ name ++
          "\x7d'. Consider using explicit numbering or descriptive titles instead")
        (.str line)]
    | none => []

end AdocLint.Counters
