import AdocLint.Rule.Basic
import AdocLint.Document

/-! AsciiDoc tables between `|===` lines, and the format, structure and content rules on them. -/

namespace AdocLint.Tables

abbrev Table := List (Nat × String)

def groupFrom (current : Option Table) : List (Nat × String) → List Table
  | [] => match current with
    | some t => [t.reverse]
    | none => []
  | (i, s) :: rest =>
    if Text.trim s == "|===" then
      match current with
      | some t => ((i, s) :: t).reverse :: groupFrom none rest
      | none => groupFrom (some [(i, s)]) rest
    else
      match current with
      | some t => groupFrom (some ((i, s) :: t)) rest
      | none => groupFrom none rest

/-- The tables of a list of entries. The entries are numbered from zero when the first is a
line, and entries that are not lines are passed; otherwise every entry is unpacked as an index
and a line. -/
def extract (entries : List Entry) : Except Fault (List Table) :=
  match entries with
  | [] => .ok []
  | .line _ :: _ =>
    .ok (groupFrom none (entries.zipIdx.filterMap fun (e, i) => e.line?.map (i, ·)))
  | .numbered _ _ :: _ => do
    let rows ← entries.mapM Entry.unpack
    .ok (groupFrom none rows.reduceOption)
  | e :: _ => .error (.notPair e.kindName)

def extractFromDocument : Document → Except Fault (List Table)
  | .text s => extract (s.toList.map fun c => .line (String.singleton c))
  | .entries xs => extract xs
  | .record [] => .ok []
  | .record _ => .error (.missingKey (.int 0))

def body (t : Table) : Table := (t.drop 1).dropLast

def lineContext (s : String) : Value := .map [(.str "line", .str s)]

def tableFinding (code : String) (sev : Severity) (i : Nat) (m s : String) : Finding :=
  Finding.atLine code sev (i + 1) m (lineContext s)

def barPositions (s : String) : List Nat :=
  s.toList.zipIdx.filterMap fun (c, i) => if c == '|' then some i else none

def misaligned (first : Option (List Nat)) : Table → List Finding
  | [] => []
  | (i, s) :: rest =>
    if Text.isBlankText s then misaligned first rest
    else
      let ps := barPositions s
      if ps.isEmpty then misaligned first rest
      else match first with
        | some f =>
          if ps != f then
            [tableFinding "TABLE001" .warning i "Column alignment is inconsistent with previous rows" s]
          else misaligned first rest
        | none => misaligned (some ps) rest

def headerFindings (t : Table) : List Finding :=
  match (body t).zipIdx.find? (fun ((_, s), _) => s.toList.contains '|') with
  | some (_, h) =>
    let next := h + 2
    if next < t.length - 1 then
      match t[next]? with
      | some (i, s) =>
        if Text.isBlankText s then [] else
          [tableFinding "TABLE001" .warning i "Header row should be followed by an empty line" s]
      | none => []
    else []
  | none => []

def formatFindings (entries : List Entry) : Except Fault (List Finding) := do
  let tables ← extract entries
  return tables.flatMap fun t => misaligned none (body t) ++ headerFindings t

/-- Whether what follows a bar is three or more `=` up to the end, or up to a final line feed. -/
def closesRow (rest : List Char) : Bool :=
  let eqs := (rest.takeWhile (· == '=')).length
  3 ≤ eqs && (match rest.drop eqs with
    | [] => true
    | ['\n'] => true
    | _ => false)

def countColumns (s : String) : Nat :=
  if Text.trim s == "|===" then 0
  else
    let cs := s.toList
    (cs.zipIdx.filter fun (c, i) => c == '|' && !closesRow (cs.drop (i + 1))).length

def columnFindings (expected : Option Nat) : Table → List Finding
  | [] => []
  | (i, s) :: rest =>
    let t := Text.trim s
    if !t.isEmpty && t.toList.contains '|' && t != "|===" then
      let n := countColumns t
      match expected with
      | none => columnFindings (some n) rest
      | some e =>
        (if n != e then
          [tableFinding "TABLE002" .error i s!"Inconsistent column count. Expected {e}, found {n}" s]
        else []) ++ columnFindings expected rest
    else columnFindings expected rest

def isContentRow (s : String) : Bool :=
  let t := Text.trim s
  !t.isEmpty && t.toList.contains '|' && t != "|==="

def structureOf (t : Table) : List Finding :=
  columnFindings none (body t) ++
    (if (body t).any (isContentRow ·.2) then [] else
      match t.head? with
      | some (i, s) => [tableFinding "TABLE002" .warning i "Empty table" s]
      | none => [])

def structureFindings (entries : List Entry) : Except Fault (List Finding) := do
  let tables ← extract entries
  return tables.flatMap structureOf

def segments : List Char → List (List Char)
  | [] => [[]]
  | c :: cs =>
    match segments cs with
    | [] => [[c]]
    | s :: rest => if c == '|' then [] :: s :: rest else (c :: s) :: rest

def declaration? (seg : List Char) : Option String :=
  match seg.dropWhile Text.isBlank with
  | [d] => if d == 'a' || d == 'l' then some (String.singleton d) else none
  | _ => none

def cellsOfSegments : List (List Char) → List (String × String)
  | [] => []
  | [seg] => [("", String.ofList (Text.trimChars seg))]
  | seg :: next :: rest =>
    match declaration? seg with
    | some d => (d, String.ofList (Text.trimChars next)) :: cellsOfSegments rest
    | none => ("", String.ofList (Text.trimChars seg)) :: cellsOfSegments (next :: rest)

def cells (s : String) : List (String × String) :=
  if Text.trim s == "|===" then [] else cellsOfSegments ((segments s.toList).drop 1)

def undeclaredList (cell : String × String) : Bool :=
  cell.1.isEmpty && match cell.2.toList with
    | c :: _ => c == '*' || c == '-'
    | [] => false

def contentOf (t : Table) : Option Finding :=
  (body t).findSome? fun (i, s) =>
    let tt := Text.trim s
    if tt.isEmpty || tt == "|===" || !(cells s).any undeclaredList then none
    else some (tableFinding "TABLE003" .warning i
      "List in table cell requires 'a|' or 'l|' declaration" s)

def contentFindings (entries : List Entry) : Except Fault (List Finding) := do
  let tables ← extract entries
  return tables.filterMap contentOf

end AdocLint.Tables
