import AdocLint.Finding
import AdocLint.Fault
import AdocLint.Text.Json

/-! Reports: the findings as console or plain text grouped by file, as JSON, or as an HTML table. -/

namespace AdocLint

inductive Format where
  | console
  | plain
  | json
  | html
  deriving DecidableEq, Repr, Inhabited

def Format.ofName? : String → Option Format
  | "console" => some .console
  | "plain" => some .plain
  | "json" => some .json
  | "html" => some .html
  | _ => none

def Format.ofName (name : String) : Except Fault Format :=
  match Format.ofName? name with
  | some f => .ok f
  | none => .error (.unknownFormat name)

namespace Report

/-- The findings grouped by file, files in the order they first appear. -/
def groups (fs : List Finding) : List (Option String × List Finding) :=
  let files := fs.foldl (fun acc f => if acc.contains f.file then acc else acc ++ [f.file]) []
  files.map fun file => (file, fs.filter (·.file == file))

def paint (colored : Bool) (code : String) (s : String) : String :=
  if colored then "\x1b[" ++ code ++ "m" ++ s ++ "\x1b[0m" else s

def text (colored : Bool) (fs : List Finding) : String :=
  if fs.isEmpty then paint colored "32" "✓ No issues found"
  else
    let cross := paint colored "31" "✗"
    let lines := (groups fs).flatMap fun (file, group) =>
      let heading := match file with
        | some f => if f.isEmpty then "Results without file:" else s!"Results for {f}:"
        | none => "Results without file:"
      heading :: group.map (fun f =>
        let loc := f.location
        if loc.isEmpty then cross ++ " " ++ f.message else cross ++ " " ++ loc ++ ": " ++ f.message)
        ++ ["\n"]
    "\n".intercalate lines

def json (fs : List Finding) : String :=
  Text.jsonText 0 (.map [(.str "findings", .list (fs.map Finding.toValue))])

def htmlHead : String :=
  "<!DOCTYPE html>\n<html>\n<head>\n    <meta charset=\"UTF-8\">\n    <title>AsciiDoc Lint Results</title>\n    <style>\n        table \x7b border-collapse: collapse; width: 100%; \x7d\n        th, td \x7b padding: 8px; text-align: left; border: 1px solid #ddd; \x7d\n        th \x7b background-color: #f2f2f2; \x7d\n        tr:nth-child(even) \x7b background-color: #f9f9f9; \x7d\n        tr:hover \x7b background-color: #f5f5f5; \x7d\n    </style>\n</head>\n<body>\n    <h1>AsciiDoc Lint Results</h1>\n    <table>\n        <tr>\n            <th>Severity</th>\n            <th>Rule ID</th>\n            <th>Location</th>\n            <th>Message</th>\n        </tr>\n        "

def htmlTail : String := "\n    </table>\n</body>\n</html>"

def html (fs : List Finding) : String :=
  let rows := fs.flatMap fun f =>
    ["<tr>", "<td>" ++ f.rating.text ++ "</td>", "<td>" ++ f.rule.getD "" ++ "</td>",
      "<td>" ++ f.location ++ "</td>", "<td>" ++ f.message ++ "</td>", "</tr>"]
  htmlHead ++ "\n".intercalate rows ++ htmlTail

def render : Format → List Finding → String
  | .console => text true
  | .plain => text false
  | .json => json
  | .html => html

def exitCode (fs : List Finding) : Nat := if fs.isEmpty then 0 else 1

end Report

end AdocLint
