import AdocLint.Cli.Arguments
import AdocLint.Cli.Workspace
import AdocLint.Linter
import AdocLint.Report
import AdocLint.Text.Utf8
import AdocLint.Yaml.Construct

/-! A run of the command line: the configuration file first, whose fault is only noted, then each
file in turn with one linter, then the report. -/

namespace AdocLint.Cli

structure Outcome where
  stdout : String := ""
  stderr : String := ""
  exitCode : Nat := 0
  deriving Inhabited, Repr

structure Disk where
  read : String → Except ReadFault ByteArray
  isFile : String → Bool

def Workspace.disk (w : Workspace) : Disk := ⟨w.read, w.isFile⟩

def readText (bytes : ByteArray) : Except Text.Utf8Fault String :=
  (Text.decodeUtf8 bytes).map fun s => String.ofList (Text.unifyNewlines s.toList)

def applyConfig (disk : Disk) (l : Linter) (path : String) : Linter × Option String :=
  match disk.read path with
  | .error f => (l, some (f.message path))
  | .ok bytes =>
    match Yaml.load (Yaml.Source.ofBytes bytes) with
    | .error e => (l, some (e.message path))
    | .ok g =>
      match l.configure g with
      | (l', some f) => (l', some f.message)
      | (l', none) => (l', none)

def failedFile (path : String) (message : String) : Finding :=
  { message := "Error linting file: " ++ message, rating := .level .error, file := some path }

def lintFile (disk : Disk) (l : Linter) (path : String) : List Finding × Linter :=
  let p := normalPath path
  match disk.read p with
  | .error f => ([failedFile path (f.message p)], l)
  | .ok bytes =>
    match readText bytes with
    | .error e => ([failedFile path e.message], l)
    | .ok text =>
      let (fs, l') := l.lintText disk.isFile text
      (fs.map (·.inFile path), l')

def lintFiles (disk : Disk) (l : Linter) : List String → List Finding × Linter
  | [] => ([], l)
  | p :: ps =>
    let (fs, l') := lintFile disk l p
    let (more, l'') := lintFiles disk l' ps
    (fs ++ more, l'')

def lintCall (disk : Disk) (config : Option String) (l : Linter) (files : List String) :
    (List Finding × Linter) × Option String :=
  let (l', note) := match config with
    | some path => if path.isEmpty then (l, none) else applyConfig disk l path
    | none => (l, none)
  (lintFiles disk l' files, note)

def run (disk : Disk) (args : List String) : Except Fault Outcome :=
  match readArguments args with
  | .help => .ok { stdout := helpText }
  | .error m => .ok { stderr := usageError m, exitCode := 2 }
  | .run s =>
    let ((findings, _), note) := lintCall disk s.config Linter.initial s.files
    match s.format with
    | none => .error (.unknownFormat "[]")
    | some name =>
      let fmt := (Format.ofName? name).getD .console
      let noteLine := match note with
        | some m => "Error loading config file: " ++ m ++ "\n"
        | none => ""
      .ok { stdout := noteLine ++ Report.render fmt findings ++ "\n"
            exitCode := Report.exitCode findings }

end AdocLint.Cli
