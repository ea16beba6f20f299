import AdocLint.Fault
import AdocLint.Text.Blank

/-! Documents as rules receive them (a text, a list of entries, or a keyed record), and their
outline: the lines that are headings. -/

namespace AdocLint

structure Heading where
  line : Nat
  content : String
  level : Nat
  deriving Inhabited, Repr, BEq

inductive Entry where
  | line (s : String)
  | absent
  | heading (h : Heading)
  -- a line with its index, given as a two-item list
  | numbered (index : Nat) (s : String)
  deriving Inhabited, Repr, BEq

namespace Entry

def kindName : Entry → String
  | .line _ => "str"
  | .absent => "NoneType"
  | .heading _ => "Header"
  | .numbered _ _ => "list"

def line? : Entry → Option String
  | .line s => some s
  | _ => none

def text : Entry → String
  | .line s => s
  | .absent => "None"
  | .heading h => h.content
  | .numbered i s => (Value.list [.int i, .str s]).display

def trimmed : Entry → Except Fault String
  | .line s => .ok (Text.trim s)
  | e => .error (.noOperation e.kindName "strip")

/-- An entry of a list read as index and line pairs. A text unpacks character by character, so
only a text of two characters is a pair; its index would be a text, which no line number is, and
it is passed over. -/
def unpack : Entry → Except Fault (Option (Nat × String))
  | .numbered i s => .ok (some (i, s))
  | .line s =>
    if s.length = 2 then .ok none
    else if s.length < 2 then .error (.fewValues 2 s.length) else .error (.manyValues 2)
  | e => .error (.notPair e.kindName)

end Entry

inductive Document where
  | text (s : String)
  | entries (xs : List Entry)
  | record (fields : List (String × Value))
  deriving Inhabited, Repr

namespace Document

def lineEntries : Document → Except Fault (List Entry)
  | .text s => .ok ((Text.lines s).map .line)
  | .entries xs => .ok xs
  | .record fs =>
    match fs.find? (·.1 == "content") with
    | none => .ok []
    | some (_, .str s) => .ok ((Text.lines s).map .line)
    | some (_, v) => .error (.noOperation v.kindName "splitlines")

def scanEntries : Document → List Entry
  | .text s => s.toList.map fun c => .line (String.singleton c)
  | .entries xs => xs
  | .record fs => fs.map fun f => .line f.1

def byPosition : Document → Bool
  | .record _ => false
  | _ => true

end Document

end AdocLint

namespace AdocLint.Outline

def heading? (n : Nat) (line : String) : Option Heading :=
  let cs := line.toList
  let level := (cs.takeWhile (· == '=')).length
  let rest := cs.drop level
  if 0 < level && rest.head? == some ' ' && !(rest.all Text.isBlank) then
    some { line := n, content := line, level }
  else none

def headingsFrom (n : Nat) : List String → List Heading
  | [] => []
  | l :: ls =>
    match heading? n l with
    | some h => h :: headingsFrom (n + 1) ls
    | none => headingsFrom (n + 1) ls

def headings (text : String) : List Heading :=
  headingsFrom 1 (Text.lines text)

def headingsOf : Value → Except Fault (List Heading)
  | .str s => .ok (headings s)
  | v => .error (.noOperation v.kindName "splitlines")

end AdocLint.Outline
