import AdocLint.Finding
import AdocLint.Fault

/-! The catalogue of rules: code, kind name, title, description and default severity of each. -/

namespace AdocLint

inductive Rule where
  | headingFormat
  | headingHierarchy
  | singleTopHeading
  | unterminatedBlock
  | blockSpacing
  | whitespace
  | imageAttributes
  | markdownSyntax
  | numberedList
  | definitionList
  | counterInTitle
  | markdownTable
  | tableFormat
  | tableStructure
  | tableContent
  | generic
  deriving DecidableEq, Repr, Inhabited

namespace Rule

def all : List Rule :=
  [.headingFormat, .headingHierarchy, .singleTopHeading, .unterminatedBlock, .blockSpacing,
    .whitespace, .imageAttributes, .markdownSyntax, .numberedList, .definitionList,
    .counterInTitle, .markdownTable, .tableFormat, .tableStructure, .tableContent, .generic]

def code : Rule → String
  | .headingFormat => "HEAD002"
  | .headingHierarchy => "HEAD001"
  | .singleTopHeading => "HEAD003"
  | .unterminatedBlock => "BLOCK001"
  | .blockSpacing => "BLOCK002"
  | .whitespace => "WS001"
  | .imageAttributes => "IMG001"
  | .markdownSyntax => "FMT004"
  | .numberedList => "FMT001"
  | .definitionList => "FMT002"
  | .counterInTitle => "FMT003"
  | .markdownTable => "FMT005"
  | .tableFormat => "TABLE001"
  | .tableStructure => "TABLE002"
  | .tableContent => "TABLE003"
  | .generic => "BASE"

def kindName : Rule → String
  | .headingFormat => "HeadingFormatRule"
  | .headingHierarchy => "HeadingHierarchyRule"
  | .singleTopHeading => "MultipleTopLevelHeadingsRule"
  | .unterminatedBlock => "UnterminatedBlockRule"
  | .blockSpacing => "BlockSpacingRule"
  | .whitespace => "WhitespaceRule"
  | .imageAttributes => "ImageAttributesRule"
  | .markdownSyntax => "MarkdownSyntaxRule"
  | .numberedList => "ExplicitNumberedListRule"
  | .definitionList => "NonSemanticDefinitionListRule"
  | .counterInTitle => "CounterInTitleRule"
  | .markdownTable => "MarkdownTableRule"
  | .tableFormat => "TableFormatRule"
  | .tableStructure => "TableStructureRule"
  | .tableContent => "TableContentRule"
  | .generic => "Rule"

def title : Rule → String
  | .whitespace => "Whitespace Check"
  | .imageAttributes => "Image Attributes Check"
  | .markdownSyntax => "Markdown Syntax Detection"
  | .numberedList => "Explicit Numbered List Detection"
  | .definitionList => "Non-Semantic Definition List Detection"
  | .counterInTitle => "Counter Syntax in Title Detection"
  | .markdownTable => "Markdown Table Syntax Detection"
  | _ => ""

def description : Rule → String
  | .headingFormat => "Ensures proper heading format (spacing and capitalization)"
  | .headingHierarchy => "Ensures proper heading level incrementation (no skipped levels)"
  | .singleTopHeading => "Ensures document has only one top-level heading"
  | .unterminatedBlock => "Checks for blocks that are not properly terminated"
  | .blockSpacing => "Checks for proper blank lines around blocks"
  | .whitespace => "Checks for proper whitespace usage"
  | .imageAttributes => "Checks for proper image attributes and file references"
  | .markdownSyntax =>
    "Detects Markdown syntax in AsciiDoc files and suggests AsciiDoc alternatives"
  | .numberedList =>
    "Detects explicit numbered lists (1., 2., etc.) and suggests using AsciiDoc dot-syntax (.) instead"
  | .definitionList =>
    "Detects non-semantic definition list patterns and suggests using AsciiDoc 'Term:: Definition' syntax"
  | .counterInTitle =>
    "Detects \x7bcounter:...\x7d usage in section titles and suggests reviewing if counters are really needed"
  | .markdownTable =>
    "Detects Markdown table syntax and suggests using AsciiDoc table syntax (|===) instead"
  | .tableFormat => "Ensures consistent table formatting (alignment and structure)"
  | .tableStructure => "Ensures consistent table structure (column counts and completeness)"
  | .tableContent => "Checks for proper declaration of complex content in table cells"
  | .generic => ""

def defaultSeverity : Rule → Severity
  | .markdownTable => .error
  | _ => .warning

def ofCode? (c : String) : Option Rule := all.find? (·.code == c)

def ofKindName? (n : String) : Option Rule := all.find? (·.kindName == n)

end Rule

end AdocLint
