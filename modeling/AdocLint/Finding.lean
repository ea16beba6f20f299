import AdocLint.Severity

/-! Findings: what a rule reports about a place in a document, and the text of that place. -/

namespace AdocLint

structure Position where
  line : Int
  column : Option Int := none
  deriving Inhabited, Repr

def Position.text (p : Position) : String :=
  match p.column with
  | some c => s!"line {p.line}, column {c}"
  | none => s!"line {p.line}"

structure Finding where
  message : String
  rating : Rating
  position : Option Position := none
  rule : Option String := none
  context : Value := .none
  file : Option String := none
  deriving Inhabited, Repr

namespace Finding

def atLine (code : String) (s : Severity) (line : Nat) (message : String) (context : Value) :
    Finding :=
  { message, rating := .level s, position := some { line }, rule := some code, context }

def inFile (f : Finding) (file : String) : Finding := { f with file := some file }

def location (f : Finding) : String :=
  match f.position with
  | none => f.file.getD ""
  | some p =>
    match f.file with
    | some file => if file.isEmpty then p.text else file ++ ", " ++ p.text
    | none => p.text

def toValue (f : Finding) : Value :=
  let opt (o : Option String) : Value := match o with | some s => .str s | none => .none
  .map [
    (.str "file", opt f.file),
    (.str "line", match f.position with | some p => .int p.line | none => .none),
    (.str "column", match f.position with
      | some { column := some c, .. } => .int c
      | _ => .none),
    (.str "message", .str f.message),
    (.str "severity", .str f.rating.text),
    (.str "rule_id", opt f.rule),
    (.str "context", f.context)]

end Finding

end AdocLint
