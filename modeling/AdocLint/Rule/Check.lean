import AdocLint.Rule.Headings
import AdocLint.Rule.Blocks
import AdocLint.Rule.Spacing
import AdocLint.Rule.Images
import AdocLint.Rule.Markdown
import AdocLint.Rule.Lists
import AdocLint.Rule.Counters
import AdocLint.Rule.MarkdownTables
import AdocLint.Rule.Tables

/-! Running a rule: a check gives the findings, or the fault, and the checker after it; and the
registry of rule kinds by name. -/

namespace AdocLint

def Rule.lineCheck (r : Rule) (sev : Severity) (i : Nat) (line : String) : List Finding :=
  match r with
  | .markdownSyntax => Markdown.lineFindings sev i line
  | .numberedList => Lists.numberedLineFindings sev i line
  | .definitionList => Lists.definitionLineFindings sev i line
  | .counterInTitle => Counters.lineFindings sev i line
  | _ => []

structure Checker where
  rule : Rule
  severity : Severity := rule.defaultSeverity
  enabled : Bool := true
  blankRun : Nat := 0
  deriving Inhabited, Repr

namespace Checker

def ofRule (r : Rule) : Checker := { rule := r }

def walksEntries (c : Checker) : Bool :=
  match c.rule with
  | .whitespace | .markdownSyntax | .numberedList | .definitionList | .counterInTitle
  | .markdownTable => true
  | _ => false

def scanTexts (doc : Document) : List String :=
  doc.scanEntries.map Entry.text

def check (c : Checker) (isFile : String → Bool) (doc : Document) :
    Except Fault (List Finding) × Checker :=
  let lines (f : List Entry → List Finding) := (doc.lineEntries.map f, c)
  let linesOr (f : List Entry → Except Fault (List Finding)) := (doc.lineEntries >>= f, c)
  let scan (f : Severity → List String → List Finding) :=
    if c.enabled then (.ok (f c.severity (scanTexts doc)), c) else (.ok [], c)
  match c.rule with
  | .headingFormat => lines Headings.formatFindings
  | .headingHierarchy => lines Headings.hierarchyFindings
  | .singleTopHeading => lines Headings.topLevelFindings
  | .unterminatedBlock => linesOr Blocks.unterminatedFindings
  | .blockSpacing => linesOr Blocks.spacingFindings
  | .whitespace =>
    if c.enabled then
      let (r, run) := Spacing.findings c.severity doc c.blankRun
      (r, { c with blankRun := run })
    else (.ok [], c)
  | .imageAttributes => (.ok (Images.findings c.severity isFile doc), c)
  | .markdownSyntax | .numberedList | .definitionList | .counterInTitle =>
    scan fun sev => Verbatim.scan (c.rule.lineCheck sev)
  | .markdownTable => scan MarkdownTables.findings
  | .tableFormat => linesOr Tables.formatFindings
  | .tableStructure => linesOr Tables.structureFindings
  | .tableContent => linesOr Tables.contentFindings
  | .generic => (.error .noCheck, c)

def findingAt (c : Checker) (line : Int) (message : String) (column : Option Int)
    (context : Value) : Finding :=
  { message, rating := .level c.severity, position := some { line, column },
    rule := some c.rule.code, context }

def lineCheck (lines : List String) (i : Int) : Except Fault (List Finding) :=
  let n : Int := lines.length
  let valid (j : Int) : Bool := -n ≤ j && j < n
  if !valid i || (0 < i && !valid (i - 1)) || (i < n - 1 && !valid (i + 1)) then .error .outOfRange
  else .ok []

def checkAll (c : Checker) (isFile : String → Bool) :
    List Document → List (Except Fault (List Finding))
  | [] => []
  | d :: ds =>
    let (r, c') := c.check isFile d
    r :: c'.checkAll isFile ds

end Checker

end AdocLint

namespace AdocLint

structure Registry where
  kinds : List Rule := []
  deriving Inhabited, Repr

namespace Registry

def register (reg : Registry) (name : String) : Except Fault Registry :=
  match Rule.ofKindName? name with
  | some r => .ok (if reg.kinds.contains r then reg else ⟨reg.kinds ++ [r]⟩)
  | none => .error (.missingKey (.str name))

def get (reg : Registry) (name : String) : Except Fault Rule :=
  match reg.kinds.find? (·.kindName == name) with
  | some r => .ok r
  | none => .error (.missingKey (.str name))

def names (reg : Registry) : List String := reg.kinds.map Rule.kindName

def createAll (reg : Registry) : List Checker := reg.kinds.map Checker.ofRule

end Registry

def interfaceNames : List String := ["Severity", "Position", "Finding", "Rule", "RuleRegistry"]

end AdocLint
