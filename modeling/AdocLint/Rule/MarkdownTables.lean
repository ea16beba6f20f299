import AdocLint.Rule.Basic
import AdocLint.Rule.Markdown
import AdocLint.Text.Blank

/-! The Markdown table rule: separator lines and the rows around them, outside verbatim blocks and
AsciiDoc tables. -/

namespace AdocLint.MarkdownTables

def isSeparator (s : String) : Bool :=
  match s.toList.dropWhile Text.isBlank with
  | '|' :: r =>
    let inner := r.dropWhile fun c => Text.isBlank c || c == ':'
    "--".toList.isPrefixOf inner &&
      inner.all fun c => c == '-' || c == '|' || c == ':' || Text.isBlank c
  | _ => false

def isRow (s : String) : Bool :=
  match Text.trimChars s.toList with
  | '|' :: r =>
    match r.getLast? with
    | some '|' => 2 ≤ r.length && !r.dropLast.contains '\n'
    | _ => false
  | _ => false

def isTableDelimiter (s : String) : Bool :=
  match s.toList.dropWhile Text.isBlank with
  | '|' :: '=' :: '=' :: '=' :: rest => rest.all Text.isBlank
  | _ => false

def passedFrom (opened : Option String) (inTable : Bool) : List String → List Bool
  | [] => []
  | s :: rest =>
    let t := Text.trim s
    if Verbatim.isDelimiter t then
      let opened' := match opened with
        | none => some t
        | some d => if d == t then none else some d
      true :: passedFrom opened' inTable rest
    else if opened.isSome then true :: passedFrom opened inTable rest
    else if isTableDelimiter s then true :: passedFrom opened (!inTable) rest
    else inTable :: passedFrom opened inTable rest

def upFrom (ok : Nat → Bool) : Nat → List Nat
  | 0 => []
  | k + 1 => if ok k then k :: upFrom ok k else []

def downFrom (ok : Nat → Bool) (j : Nat) : Nat → List Nat
  | 0 => []
  | fuel + 1 => if ok j then j :: downFrom ok (j + 1) fuel else []

def findings (sev : Severity) (lines : List String) : List Finding :=
  let texts := lines.toArray
  let n := texts.size
  let passed := (passedFrom none false lines).toArray
  let free (j : Nat) : Bool := !passed.getD j true
  let separators := (List.range n).filter fun i => free i && isSeparator (texts.getD i "")
  let ok (j : Nat) : Bool := free j && isRow (texts.getD j "")
  let flagged := separators.foldl (fun acc i =>
    ((i :: upFrom ok i) ++ downFrom ok (i + 1) (n - (i + 1))).foldl
      (fun a j => a.setIfInBounds j true) acc) (Array.replicate n false)
  let at_ (i : Nat) (m : String) := Finding.atLine "FMT005" sev (i + 1) m (.str (texts.getD i ""))
  separators.map (at_ · "Markdown table separator detected. Use AsciiDoc table syntax (|===) instead") ++
    ((List.range n).filter fun i => flagged.getD i false && !isSeparator (texts.getD i "")).map
      (at_ · "Markdown table row detected. Use AsciiDoc table syntax (|===) instead")

end AdocLint.MarkdownTables
