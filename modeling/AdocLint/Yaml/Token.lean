import AdocLint.Text.Printable
import AdocLint.Text.Utf8

/-! Tokens of YAML text, the marks that locate them and the errors that name them. -/

namespace AdocLint.Yaml

structure Mark where
  index : Nat := 0
  line : Nat := 0
  column : Nat := 0
  deriving Inhabited, Repr, BEq

def Mark.text (m : Mark) (name : String) : String :=
  "  in \"" ++ name ++ "\", line " ++ toString (m.line + 1) ++ ", column " ++
    toString (m.column + 1)

structure Problem where
  context : Option String := none
  contextMark : Option Mark := none
  problem : String
  problemMark : Option Mark := none
  deriving Inhabited, Repr

inductive YamlError where
  | located (p : Problem)
  | unacceptable (code : Nat) (position : Nat)
  | conversion (message : String)
  | undecodable (f : Text.Utf8Fault)
  | nestedTooDeeply
  deriving Inhabited, Repr

def YamlError.message (name : String) : YamlError → String
  | .located p =>
    let sameMark := match p.contextMark, p.problemMark with
      | some a, some b => a.line == b.line && a.column == b.column
      | _, _ => false
    let parts : List String :=
      p.context.toList ++
      (match p.contextMark with
        | some m => if sameMark then [] else [m.text name]
        | none => []) ++
      [p.problem] ++ (p.problemMark.map (·.text name)).toList
    "\n".intercalate parts
  | .unacceptable code position =>
    let hex := String.ofList (Text.hexDigits 4 code)
    "unacceptable character #x" ++ hex ++ ": special characters are not allowed\n  in \"" ++ name ++
      "\", position " ++ toString position
  | .conversion m => m
  | .undecodable f => f.message
  | .nestedTooDeeply => "maximum recursion depth exceeded"

inductive Directive where
  | version (major minor : Nat)
  | tagPrefix (handle pfx : String)
  | other (name : String)
  deriving Inhabited, Repr, BEq

inductive TokenKind where
  | streamStart
  | streamEnd
  | directive (d : Directive)
  | documentStart
  | documentEnd
  | blockSequenceStart
  | blockMappingStart
  | blockEnd
  | flowSequenceStart
  | flowMappingStart
  | flowSequenceEnd
  | flowMappingEnd
  | key
  | value
  | blockEntry
  | flowEntry
  | alias (name : String)
  | anchor (name : String)
  | tag (handle : Option String) (suffix : String)
  | scalar (text : String) (plain : Bool) (style : Option Char) (codes : Option (List Nat))
  deriving Inhabited, Repr, BEq

def TokenKind.id : TokenKind → String
  | .streamStart => "<stream start>"
  | .streamEnd => "<stream end>"
  | .directive _ => "<directive>"
  | .documentStart => "<document start>"
  | .documentEnd => "<document end>"
  | .blockSequenceStart => "<block sequence start>"
  | .blockMappingStart => "<block mapping start>"
  | .blockEnd => "<block end>"
  | .flowSequenceStart => "["
  | .flowMappingStart => "\x7b"
  | .flowSequenceEnd => "]"
  | .flowMappingEnd => "\x7d"
  | .key => "?"
  | .value => ":"
  | .blockEntry => "-"
  | .flowEntry => ","
  | .alias _ => "<alias>"
  | .anchor _ => "<anchor>"
  | .tag _ _ => "<tag>"
  | .scalar .. => "<scalar>"

def TokenKind.sameSort : TokenKind → TokenKind → Bool
  | .alias _, .alias _ => true
  | .anchor _, .anchor _ => true
  | .tag .., .tag .. => true
  | .scalar .., .scalar .. => true
  | .directive _, .directive _ => true
  | a, b => a == b

structure Token where
  kind : TokenKind
  start : Mark
  stop : Mark
  deriving Inhabited, Repr

end AdocLint.Yaml
