import AdocLint.Value.Literal

/-! Severities of findings, and the rating a finding carries. -/

namespace AdocLint

inductive Severity where
  | error
  | warning
  | info
  deriving DecidableEq, Repr, Inhabited

namespace Severity

def name : Severity → String
  | .error => "error"
  | .warning => "warning"
  | .info => "info"

def ofName? : String → Option Severity
  | "error" => some .error
  | "warning" => some .warning
  | "info" => some .info
  | _ => none

def lowerAscii (s : String) : String :=
  String.map Char.toLower s

def ofValue? : Value → Option Severity
  | .str s => ofName? s
  | _ => none

def sameAs (s : Severity) : Value → Bool
  | .str t => s.name == lowerAscii t
  | _ => false

def ofLabel (t : String) : Severity :=
  (ofName? (lowerAscii t)).getD .warning

theorem ofName_name (s : Severity) : ofName? s.name = some s := by
  cases s <;> rfl

end Severity

inductive Rating where
  | level (s : Severity)
  | other (v : Value)
  deriving Inhabited, Repr

namespace Rating

def ofValue : Value → Rating
  | .str t => .level (Severity.ofLabel t)
  | v => .other v

def text : Rating → String
  | .level s => s.name
  | .other v => v.display

end Rating

end AdocLint
