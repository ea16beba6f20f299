import AdocLint.Fault
import AdocLint.Value
import AdocLint.Severity
import AdocLint.Finding
import AdocLint.Document
import AdocLint.Linter
import AdocLint.Report
import AdocLint.Rule.Check
import AdocLint.Cli.Arguments
import AdocLint.Cli.Workspace
import AdocLint.Cli.Run
import AdocLint.Yaml.Token
import AdocLint.Yaml.Scanner
import AdocLint.Yaml.Parser
import AdocLint.Yaml.Resolve
import AdocLint.Yaml.Construct
import AdocLint.Package.Readme
import AdocLint.Package.Metadata
import AdocLint.Package.ModuleIndex
import AdocLint.Package.Plan
import AdocLint.Package.WorkingTree
import AdocLint.Package.Version
import AdocLint.Package.Session
import AdocLint.Package.Distributions
import AdocLint.Package.CommandLine
import AdocLint.Workload.Bench
import AdocLint.Workload.Documents
import AdocLint.Workload.Measure
import AdocLint.Main
import AdocLint.Proofs.Configuration
import AdocLint.Proofs.Dispatch
import AdocLint.Proofs.BlankRuns
import AdocLint.Proofs.History
import AdocLint.Proofs.VerbatimBlocks
import AdocLint.Proofs.MarkdownTableRows
import AdocLint.Proofs.LintFindings
import AdocLint.Proofs.Severities
import AdocLint.Proofs.BlockDelimiters
import AdocLint.Proofs.LineChecks
import AdocLint.Proofs.TableStructure
import AdocLint.Proofs.TableCells
import AdocLint.Proofs.HeadingLines
import AdocLint.Proofs.AttributeLists
import AdocLint.Proofs.TableContent
import AdocLint.Proofs.HtmlReport
import AdocLint.Proofs.ConsoleReport
