import AdocLint.Text.Printable
import AdocLint.Text.Digit

/-! The command line's arguments: the files, then `--config`, `--format`, `--verbose`, `--debug` and
help, read by the usual rules of option parsers. -/

namespace AdocLint.Cli

inductive Flag where
  | help
  | config
  | format
  | verbose
  | debug
  deriving DecidableEq, Repr, Inhabited

def spellings : List (String × Flag) :=
  [("-h", .help), ("--help", .help), ("--config", .config), ("--format", .format),
    ("--verbose", .verbose), ("--debug", .debug)]

def Flag.title (f : Flag) : String :=
  "/".intercalate ((spellings.filter (·.2 == f)).map (·.1))

def Flag.takesValue : Flag → Bool
  | .config | .format => true
  | _ => false

def formatNames : List String := ["console", "plain", "json", "html"]

structure Settings where
  files : List String := []
  config : Option String := none
  format : Option String := some "console"
  verbose : Bool := false
  debug : Bool := false
  deriving Inhabited, Repr

inductive Request where
  | run (s : Settings)
  | help
  | error (message : String)
  deriving Inhabited, Repr

inductive Word where
  | plain
  | marker
  | option (flag : Flag) (spelling : String) (attached : Option String)
  | unknown
  deriving Inhabited, Repr

def isNegativeNumber (s : String) : Bool :=
  match s.toList with
  | '-' :: rest =>
    let body := if rest.getLast? == some '\n' then rest.dropLast else rest
    let whole := body.takeWhile Text.isDigit
    match body.drop whole.length with
    | [] => !whole.isEmpty
    | '.' :: frac => !frac.isEmpty && frac.all Text.isDigit
    | _ => false
  | _ => false

def candidates (s : String) : List Word :=
  match s.toList with
  | '-' :: '-' :: _ =>
    let (pre, post) := match s.splitOn "=" with
      | [whole] => (whole, none)
      | p :: rest => (p, some ("=".intercalate rest))
      | [] => (s, none)
    spellings.filterMap fun (sp, f) => if sp.startsWith pre then some (.option f sp post) else none
  | '-' :: _ =>
    let short := String.ofList (s.toList.take 2)
    let glued := String.ofList (s.toList.drop 2)
    spellings.filterMap fun (sp, f) =>
      if sp == short then some (.option f sp (some glued))
      else if sp.startsWith s then some (.option f sp none) else none
  | _ => []

def classify (s : String) : Except String Word :=
  if s.isEmpty || !s.startsWith "-" then .ok .plain
  else match spellings.find? (·.1 == s) with
  | some (_, f) => .ok (.option f s none)
  | none =>
    if s.length == 1 then .ok .plain
    else
      let exactEq : Option Word := match s.splitOn "=" with
        | p :: rest@(_ :: _) =>
          match spellings.find? (fun (e : String × Flag) => e.1 == p) with
          | some (_, f) => some (Word.option f p (some ("=".intercalate rest)))
          | none => none
        | _ => none
      match exactEq with
      | some w => .ok w
      | none =>
        match candidates s with
        | [w] => .ok w
        | ws@(_ :: _ :: _) =>
          let names := ws.filterMap fun (w : Word) => match w with
            | Word.option _ sp _ => some sp
            | _ => none
          let matched := ", ".intercalate names
          .error s!"ambiguous option: {s} could match {matched}"
        | [] =>
          if isNegativeNumber s || s.toList.contains ' ' then .ok .plain else .ok .unknown

def classifyAll : List String → Except String (List Word)
  | [] => .ok []
  | s :: rest =>
    if s == "--" then .ok (.marker :: rest.map fun _ => .plain)
    else do
      let w ← classify s
      let ws ← classifyAll rest
      pure (w :: ws)

def Word.letter : Word → Char
  | .plain => 'A'
  | .marker => '-'
  | _ => 'O'

def fileRun (letters : List Char) : Nat :=
  let lead := (letters.takeWhile (· == '-')).length
  match letters.drop lead with
  | 'A' :: rest => lead + 1 + (rest.takeWhile fun c => c == 'A' || c == '-').length
  | _ => 0

structure Reading where
  settings : Settings := {}
  filesRead : Bool := false
  leftOver : List String := []
  deriving Inhabited

def optionFault (f : Flag) (m : String) : String := s!"argument {f.title}: {m}"

def Reading.act (r : Reading) (f : Flag) (value : Option String) : Except Request Reading :=
  match f, value with
  | .help, _ => .error .help
  | .config, some "--" => .ok { r with settings := { r.settings with config := none } }
  | .config, some v => .ok { r with settings := { r.settings with config := some v } }
  | .format, some "--" => .ok { r with settings := { r.settings with format := none } }
  | .format, some v =>
    if formatNames.contains v then .ok { r with settings := { r.settings with format := some v } }
    else
      let shown := Text.quote v
      let choices := ", ".intercalate (formatNames.map Text.quote)
      .error (.error (optionFault .format s!"invalid choice: {shown} (choose from {choices})"))
  | .verbose, _ => .ok { r with settings := { r.settings with verbose := true } }
  | .debug, _ => .ok { r with settings := { r.settings with debug := true } }
  | _, none => .ok r

def gather (args : Array String) (letters : List Char) (j : Nat) :
    Word → Nat → Except Request (List (Flag × Option String) × Nat × List String)
  | _, 0 => .ok ([], j + 1, [])
  | .unknown, _ => .ok ([], j + 1, [args.getD j ""])
  | .option f sp attached, fuel + 1 =>
    match attached with
    | some a =>
      if f.takesValue then .ok ([(f, some a)], j + 1, [])
      else if (sp.toList.drop 1).head? != some '-' && !a.isEmpty then
        let next := "-" ++ String.ofList (a.toList.take 1)
        let rest := String.ofList (a.toList.drop 1)
        match spellings.find? (·.1 == next) with
        | some (_, f') =>
          let w := Word.option f' next (if rest.isEmpty then none else some rest)
          match gather args letters j w fuel with
          | .ok (acts, k, left) => .ok ((f, none) :: acts, k, left)
          | .error e => .error e
        | none =>
          let shown := Text.quote a
          .error (.error (optionFault f s!"ignored explicit argument {shown}"))
      else
        let shown := Text.quote a
        .error (.error (optionFault f s!"ignored explicit argument {shown}"))
    | none =>
      if f.takesValue then
        if letters[j + 1]? == some 'A' then .ok ([(f, args[j + 1]?)], j + 2, [])
        else .error (.error (optionFault f "expected one argument"))
      else .ok ([(f, none)], j + 1, [])
  | _, _ => .ok ([], j + 1, [])

def Reading.actAll (r : Reading) : List (Flag × Option String) → Except Request Reading
  | [] => .ok r
  | (f, v) :: rest => do
    let r ← r.act f v
    r.actAll rest

def takeFiles (args : Array String) (letters : List Char) (r : Reading) (i : Nat) :
    Reading × Nat :=
  if r.filesRead then (r, i)
  else
    let n := fileRun (letters.drop i)
    if n == 0 then (r, i)
    else
      let taken := ((args.toList.drop i).take n)
      let files := match taken.findIdx? (· == "--") with
        | some k => taken.eraseIdx k
        | none => taken
      ({ r with filesRead := true, settings := { r.settings with files } }, i + n)

def readFrom (args : Array String) (words : Array Word) (letters : List Char) :
    Nat → Reading → Nat → Except Request Reading
  | 0, r, _ => .ok r
  | fuel + 1, r, i =>
    let optionAt (k : Nat) : Bool := match words[k]? with
      | some (.option ..) | some .unknown => true
      | _ => false
    match (List.range' i (args.size - i)).find? optionAt with
    | none =>
      let (r, stop) := takeFiles args letters r i
      .ok { r with leftOver := r.leftOver ++ (args.toList.drop stop) }
    | some j =>
      let (r, i') := if i != j then takeFiles args letters r i else (r, i)
      if i' > i then readFrom args words letters fuel r i'
      else
        let r := { r with leftOver := r.leftOver ++ ((args.toList.drop i).take (j - i)) }
        match gather args letters j (words.getD j .plain) (args.size + 1) with
        | .ok (acts, next, left) =>
          match { r with leftOver := r.leftOver ++ left }.actAll acts with
          | .ok r => readFrom args words letters fuel r next
          | .error e => .error e
        | .error e => .error e

def readArguments (args : List String) : Request :=
  match classifyAll args with
  | .error m => .error m
  | .ok words =>
    let letters := words.map Word.letter
    match readFrom args.toArray words.toArray letters (2 * args.length + 2) {} 0 with
    | .error req => req
    | .ok r =>
      if !r.filesRead then .error "the following arguments are required: files"
      else if !r.leftOver.isEmpty then
        .error ("unrecognized arguments: " ++ " ".intercalate r.leftOver)
      else .run r.settings

def usage : String :=
  "usage: asciidoc-linter [-h] [--config CONFIG]\n                       [--format \x7bconsole,plain,json,html\x7d] [--verbose]\n                       [--debug]\n                       files [files ...]\n"

def helpText : String :=
  usage ++ "\nLint AsciiDoc files for common issues and style violations\n\npositional arguments:\n  files                 One or more AsciiDoc files to check\n\noptions:\n  -h, --help            show this help message and exit\n  --config CONFIG       Path to configuration file\n  --format \x7bconsole,plain,json,html\x7d\n                        Output format (default: console)\n  --verbose             Enable verbose output\n  --debug               Enable debug output\n"

def usageError (message : String) : String :=
  usage ++ "asciidoc-linter: error: " ++ message ++ "\n"

end AdocLint.Cli
