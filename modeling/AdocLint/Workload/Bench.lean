import AdocLint.Fault

/-! The catalogue of measured runs, each asked for by name with a size. -/

namespace AdocLint.Workload

inductive Bench where
  | baseRuleAndRegistry
  | blockRules
  | cliMain
  | formatRules
  | headingRules
  | imageRule
  | linterLintString
  | markdownTableRule
  | parser
  | reporters
  | tableRules
  | whitespaceRule
  deriving DecidableEq, Repr, Inhabited

namespace Bench

def all : List Bench :=
  [.baseRuleAndRegistry, .blockRules, .cliMain, .formatRules, .headingRules, .imageRule,
    .linterLintString, .markdownTableRule, .parser, .reporters, .tableRules, .whitespaceRule]

def namePrefix : String := "bench_"

def name : Bench → String
  | .baseRuleAndRegistry => "bench_base_rule_and_registry"
  | .blockRules => "bench_block_rules"
  | .cliMain => "bench_cli_main"
  | .formatRules => "bench_format_rules"
  | .headingRules => "bench_heading_rules"
  | .imageRule => "bench_image_rule"
  | .linterLintString => "bench_linter_lint_string"
  | .markdownTableRule => "bench_markdown_table_rule"
  | .parser => "bench_parser"
  | .reporters => "bench_reporters"
  | .tableRules => "bench_table_rules"
  | .whitespaceRule => "bench_whitespace_rule"

def sizeName : Bench → String
  | .baseRuleAndRegistry => "n_findings"
  | .blockRules => "n_blocks"
  | .cliMain => "n_sections"
  | .formatRules => "n_lines"
  | .headingRules => "n_lines"
  | .imageRule => "n_images"
  | .linterLintString => "n_sections"
  | .markdownTableRule => "n_tables"
  | .parser => "n_lines"
  | .reporters => "n_findings"
  | .tableRules => "n_tables"
  | .whitespaceRule => "n_lines"

def defaultSize : Bench → Int
  | .baseRuleAndRegistry => 2000
  | .blockRules => 300
  | .cliMain => 15
  | .formatRules => 1500
  | .headingRules => 2000
  | .imageRule => 400
  | .linterLintString => 30
  | .markdownTableRule => 200
  | .parser => 20000
  | .reporters => 600
  | .tableRules => 120
  | .whitespaceRule => 3000

def ofName? (s : String) : Option Bench := all.find? (·.name == s)

def countsCopies : Bench → Bool
  | .markdownTableRule => true
  | _ => false

def sizeOfValue (copies : Bool) : Value → Except Fault Int
  | .int n =>
    if copies && (n < -(Int.pow 2 63) || n ≥ Int.pow 2 63) then .error .indexOverflow else .ok n
  | .bool b => .ok (if b then 1 else 0)
  | v =>
    let kind := v.kindName
    if copies then .error (.wrongType s!"can't multiply sequence by non-int of type '{kind}'")
    else .error (.wrongType s!"'{kind}' object cannot be interpreted as an integer")

def sizeOf (b : Bench) (args : List (String × Value)) : Except Fault Int :=
  match args.find? (·.1 != b.sizeName) with
  | some (k, _) => .error (.wrongType s!"{b.name}() got an unexpected keyword argument '{k}'")
  | none =>
    match args.find? (·.1 == b.sizeName) with
    | some (_, v) => sizeOfValue b.countsCopies v
    | none => .ok b.defaultSize

end Bench

def keywordArguments (b : Bench) : Option Value → Except Fault (List (String × Value))
  | none => .ok []
  | some (.map es) => .ok (es.map fun (k, v) => (k.display, v))
  | some v =>
    .error (.wrongType
      s!"microbench.{b.name}() argument after ** must be a mapping, not {v.kindName}")

def lookupBench : Value → Except Fault Bench
  | .str s =>
    if !s.startsWith Bench.namePrefix then .error (.missingKey (.str s))
    else match Bench.ofName? s with
      | some b => .ok b
      | none => .error (.noMember "microbench" s)
  | v => .error (.noOperation v.kindName "startswith")

end AdocLint.Workload
