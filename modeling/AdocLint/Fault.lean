import AdocLint.Value.Literal

/-! Faults: why an operation stops without an answer, each with the kind by which it is reported
and a message. -/

namespace AdocLint

inductive Fault where
  | missingKey (key : Value)
  | noOperation (kind : String) (operation : String)
  | notPair (kind : String)
  | fewValues (expected got : Nat)
  | manyValues (expected : Nat)
  | notSeverity (literal : String)
  | longInteger
  | unknownFormat (name : String)
  | noCheck
  | outOfRange
  | writeOutOfRange
  | wrongType (message : String)
  | noMember (owner : String) (name : String)
  | notCommandClass (shown : String)
  | indexOverflow
  | reservedSection (name : String)
  | noSectionHeader (file : String) (line : String)
  | unparsableLines (file : String) (lines : List (Nat × String))
  | refusedValue (message : String)
  deriving Inhabited, Repr

def Fault.message : Fault → String
  | .missingKey k => k.literal
  | .noOperation kind op => s!"'{kind}' object has no attribute '{op}'"
  | .notPair kind => s!"cannot unpack non-iterable {kind} object"
  | .fewValues e g => s!"not enough values to unpack (expected {e}, got {g})"
  | .manyValues e => s!"too many values to unpack (expected {e})"
  | .notSeverity t => t ++ " is not a valid Severity"
  | .longInteger => "Exceeds the limit (4300 digits) for integer string conversion; " ++
    "use sys.set_int_max_str_digits() to increase the limit"
  | .unknownFormat name => "Unrecognised format " ++ name
  | .noCheck => "Rule must implement check method"
  | .outOfRange => "list index out of range"
  | .writeOutOfRange => "list assignment index out of range"
  | .wrongType m => m
  | .noMember owner name => s!"module '{owner}' has no attribute '{name}'"
  | .notCommandClass shown => s!"command class <class '{shown}'> must subclass Command"
  | .indexOverflow => "cannot fit 'int' into an index-sized integer"
  | .reservedSection name => "Invalid section name: " ++ Text.quote name
  | .noSectionHeader file line =>
    "File contains no section headers.\nfile: " ++ Text.quote file ++ ", line: 1\n" ++
      Text.quote line
  | .unparsableLines file lines =>
    "Source contains parsing errors: " ++ Text.quote file ++ String.join (lines.map fun (n, l) =>
      "\n\t[line " ++ (if n < 10 then " " else "") ++ toString n ++ "]: " ++ Text.quote l)
  | .refusedValue m => m

def Fault.rejectedSeverity (g : Graph) (v : Value) : Fault :=
  match g.literal? v with
  | some t => .notSeverity t
  | none => .longInteger

end AdocLint
