import AdocLint.Rule.Check
import AdocLint.Document

/-! The linter: twelve checkers in a fixed order, configured from a value and run over texts, the
heading and block rules on the text's headings rather than its lines. -/

namespace AdocLint

def lintRules : List Rule :=
  [.headingFormat, .headingHierarchy, .singleTopHeading, .unterminatedBlock, .blockSpacing,
    .whitespace, .imageAttributes, .markdownSyntax, .numberedList, .definitionList,
    .counterInTitle, .markdownTable]

structure Linter where
  checkers : List Checker
  deriving Inhabited, Repr

namespace Linter

def initial : Linter := ⟨lintRules.map Checker.ofRule⟩

inductive Directive where
  | drop
  | keep
  | setSeverity (s : Severity)
  deriving Repr

def Directive.apply : Directive → Checker → Option Checker
  | .drop, _ => none
  | .keep, c => some c
  | .setSeverity s, c => some { c with severity := s }

/-- The directive of the entry for the rule with code `code` in the configuration mapping `cfg`,
or the fault of reading it: a missing entry keeps the rule, an `enabled` entry is read for its
truth, and a `severity` entry must name a severity exactly. -/
def directive (g : Graph) (cfg : Value) (code : String) : Except Fault Directive :=
  match g.resolve cfg with
  | .map _ =>
    let entry := (g.lookup? code cfg).getD (.map [])
    match g.resolve entry with
    | .map _ =>
      if !g.truthy ((g.lookup? "enabled" entry).getD (.bool true)) then .ok .drop
      else
        match g.lookup? "severity" entry with
        | none => .ok .keep
        | some v =>
          match Severity.ofValue? v with
          | some s => .ok (.setSeverity s)
          | none => .error (Fault.rejectedSeverity g v)
    | _ => .error (.noOperation (g.kindName entry) "get")
  | _ => .error (.noOperation (g.kindName cfg) "get")

/-- Applies the configuration mapping `cfg` of the graph `g` to the checkers not yet visited;
`kept` holds the visited ones, reversed. Gives the checkers and the fault that stopped the work,
if any. -/
def configureFrom (g : Graph) (cfg : Value) (kept : List Checker) :
    List Checker → List Checker × Option Fault
  | [] => (kept.reverse, none)
  | c :: rest =>
    match directive g cfg c.rule.code with
    | .ok .drop =>
      -- the dropped checker leaves the list being walked, so the next one takes its place and is
      -- passed over
      match rest with
      | [] => (kept.reverse, none)
      | n :: rest' => configureFrom g cfg (n :: kept) rest'
    | .ok .keep => configureFrom g cfg (c :: kept) rest
    | .ok (.setSeverity s) => configureFrom g cfg ({ c with severity := s } :: kept) rest
    | .error f => (kept.reverse ++ c :: rest, some f)

def rulesEntry (g : Graph) : Value := (g.lookup? "rules" g.root).getD (.map [])

def configure (l : Linter) (g : Graph) : Linter × Option Fault :=
  match g.resolve g.root with
  | .map _ =>
    let (cs, f) := configureFrom g (rulesEntry g) [] l.checkers
    (⟨cs⟩, f)
  | _ => (l, some (.noOperation (g.kindName g.root) "get"))

def findingsOf (r : Except Fault (List Finding)) : List Finding :=
  match r with
  | .ok fs => fs
  | .error _ => []

def runFrom (isFile : String → Bool) (lines : Document) (heads : Document) :
    List Checker → List Finding × List Checker
  | [] => ([], [])
  | c :: cs =>
    let (r, c') := c.check isFile (if c.walksEntries then lines else heads)
    let (more, cs') := runFrom isFile lines heads cs
    (findingsOf r ++ more, c' :: cs')

def lintText (l : Linter) (isFile : String → Bool) (text : String) : List Finding × Linter :=
  let lines := Document.entries ((Text.lines text).map .line)
  let heads := Document.entries ((Outline.headings text).map .heading)
  let (fs, cs) := runFrom isFile lines heads l.checkers
  (fs, ⟨cs⟩)

def lintValue (l : Linter) (isFile : String → Bool) :
    Value → Except Fault (List Finding × Linter)
  | .str s => .ok (l.lintText isFile s)
  | v => .error (.noOperation v.kindName "splitlines")

end Linter

end AdocLint
