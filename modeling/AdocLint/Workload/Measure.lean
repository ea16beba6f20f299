import AdocLint.Workload.Bench
import AdocLint.Workload.Documents
import AdocLint.Linter
import AdocLint.Rule.Check
import AdocLint.Report
import AdocLint.Cli.Run

/-! What each measured run counts on its document. -/

namespace AdocLint.Workload

def shapes (lines : List String) : List Document :=
  let text := joinLines lines
  [.entries (lines.map .line), .text text, .record [("content", .str text)]]

def findingsOf (r : Rule) (isFile : String → Bool) (doc : Document) :
    Except Fault (List Finding) :=
  ((Checker.ofRule r).check isFile doc).1

def countOn (r : Rule) (isFile : String → Bool) (docs : List Document) : Except Fault Nat :=
  docs.foldlM (fun acc d => do return acc + (← findingsOf r isFile d).length) 0

def noFile (_ : String) : Bool := false

def withHeadingRecord : List String → Except Fault (List Entry)
  | [] => .error .writeOutOfRange
  | l :: ls => .ok (.heading { line := 1, content := l, level := 0 } :: ls.map .line)

def measureParser (n : Int) : Nat := (Outline.headings (mixedText n)).length

def measureHeadings (n : Int) : Except Fault Nat := do
  let docs := shapes ((indexes n).map headingLine)
  let a ← countOn .headingFormat noFile (docs.take 2)
  let b ← countOn .headingHierarchy noFile docs
  let c ← countOn .singleTopHeading noFile docs
  return a + b + c

def measureBlocks (n : Int) : Except Fault Nat := do
  let docs := shapes ((indexes n).flatMap blockLines)
  return (← countOn .unterminatedBlock noFile docs) + (← countOn .blockSpacing noFile docs)

def measureSpacing (n : Int) : Except Fault Nat := do
  let entries ← withHeadingRecord ((indexes n).map spacingLine)
  countOn .whitespace noFile [.entries entries]

def measureImages (n : Int) : Except Fault Nat :=
  countOn .imageAttributes (· == existingImage)
    [.entries ((indexes n).map fun i => .line (imageLine i))]

def measureFormat (n : Int) : Except Fault Nat := do
  let doc := Document.entries (← withHeadingRecord ((indexes n).map formatLine))
  [Rule.numberedList, .definitionList, .counterInTitle, .markdownSyntax].foldlM
    (fun acc r => do return acc + (← countOn r noFile [doc])) 0

def measureMarkdownTables (n : Int) : Except Fault Nat := do
  let fs ← findingsOf .markdownTable noFile (.entries ((tableLines n).map .line))
  return fs.foldl (fun acc f => acc + (f.position.map (·.line.toNat)).getD 0) 0

def sampleRow : String := "|a |b |c |d"

def measureTables (n : Int) : Except Fault Nat := do
  let lines := tableLines n
  let docs := shapes lines
  let found ← [Rule.tableFormat, .tableStructure, .tableContent].foldlM
    (fun acc r => do return acc + (← countOn r noFile docs)) 0
  let fromLines ← Tables.extract (lines.map .line)
  let fromNumbered := Tables.groupFrom none (lines.zipIdx.map fun (s, i) => (i, s))
  return found + fromLines.length + fromNumbered.length + Tables.countColumns sampleRow +
    (Tables.cells "|===").length + Tables.countColumns "|==="

def measureLint (n : Int) : Nat := (Linter.initial.lintText noFile (sectionText n)).1.length

def registeredKinds : List String := ["HeadingFormatRule", "HeadingHierarchyRule"]

def registryMessage (i : Nat) : String := s!"Benchmark finding {i} for the rule"

def measureRegistry (n : Int) : Except Fault Nat := do
  let reg : Registry ← registeredKinds.foldlM (fun r k => r.register k) {}
  let checkers : List Checker := reg.createAll
  let first := checkers.headD (Checker.ofRule .generic)
  let made : List Finding :=
    (indexes n).map fun (i : Nat) =>
      first.findingAt ((i + 1 : Nat) : Int) (registryMessage i) none .none
  let names := (reg.names.map String.length).foldr (· + ·) 0
  return made.foldl (fun acc (f : Finding) =>
    acc + (f.position.map (·.line.toNat)).getD 0 + f.message.length) (names + checkers.length)

def reportFinding (i : Nat) : Finding :=
  { message := s!"Synthetic lint finding {i}",
    rating := .level (if i % 3 == 0 then Severity.error else .warning),
    position := some { line := i + 1 }, rule := some (if i % 2 == 0 then "BLOCK001" else "WS001") }

def edgeFindings : List Finding :=
  [{ message := "Heading level skipped: a level 4 heading follows a level 2 heading; " ++
        "use successive levels",
      rating := .level .error, position := some { line := 3, column := some 7 },
      rule := some "HEAD001", file := some "docs/intro.adoc" },
    { message := "Error linting file: [Errno 2] No such file or directory: 'docs/draft.adoc'",
      rating := .level .error, file := some "docs/draft.adoc" },
    { message := "Document mixes line endings; convert every carriage return and line feed " ++
        "to a line feed",
      rating := .level .info, rule := some "WS001" },
    { message := "Severity label 'critical' is unknown, so this finding is reported with " ++
        "warning severity",
      rating := .level (Severity.ofLabel "critical"), position := some { line := 12 },
      rule := some "FMT001" },
    { message := "Image is missing alternate text", rating := .level .error,
      position := some { line := 20, column := some 4 }, rule := some "IMG001",
      context := .str "image::diagram.png[]" }]

def reportFindings (n : Int) : List Finding :=
  (indexes n).map fun i => edgeFindings.getD i (reportFinding i)

def documentFinding : Finding :=
  { message := "Document title is missing", rating := .level .warning }

def measureReports (n : Int) : Nat :=
  let fs := reportFindings n
  ([Format.console, .plain, .html].map fun f => (Report.render f fs).length).foldr (· + ·) 0 +
    (Report.render .console [documentFinding]).length +
    (Report.render .json [documentFinding]).length

def cliDocument : String := "/tmp/tmpworkload/bench.adoc"

def cliConfigPath : String := "/tmp/tmpworkload/lint.yml"

def cliConfig : String := "rules:\n  FMT004:\n    enabled: false\n"

def cliRuns : List (List String) :=
  [[cliDocument], [cliDocument, "--format", "console"], [cliDocument, "--format", "json"],
    [cliDocument, "--format", "html"], [cliDocument, "--config", cliConfigPath],
    [cliDocument, "--config", "missing.yml"], [cliDocument, "docs/missing-file.adoc"]]

def cliFiles (n : Int) : List (String × String) :=
  [(cliDocument, sectionText n), (cliConfigPath, cliConfig)]

def diskOf (files : List (String × String)) : Cli.Disk where
  read p := match files.find? (·.1 == p) with
    | some (_, t) => .ok t.toUTF8
    | none => .error .missing
  isFile p := files.any (·.1 == p)

def measureCli (n : Int) : Nat :=
  let disk := diskOf (cliFiles n)
  (cliRuns.map fun args => match Cli.run disk args with
    | .ok o => o.stdout.length + o.exitCode
    | .error _ => 0).foldr (· + ·) 0

def Bench.measure : Bench → Int → Except Fault Nat
  | .baseRuleAndRegistry, n => measureRegistry n
  | .blockRules, n => measureBlocks n
  | .cliMain, n => .ok (measureCli n)
  | .formatRules, n => measureFormat n
  | .headingRules, n => measureHeadings n
  | .imageRule, n => measureImages n
  | .linterLintString, n => .ok (measureLint n)
  | .markdownTableRule, n => measureMarkdownTables n
  | .parser, n => .ok (measureParser n)
  | .reporters, n => .ok (measureReports n)
  | .tableRules, n => measureTables n
  | .whitespaceRule, n => measureSpacing n

def runRequest (name : Value) (args : Option Value) (times : Nat) : Except Fault (List Nat) := do
  let b ← lookupBench name
  let size ← b.sizeOf (← keywordArguments b args)
  let value ← b.measure size
  return List.replicate times value

end AdocLint.Workload
