import AdocLint.Package.Commands
import AdocLint.Package.ModuleIndex
import AdocLint.Package.Distributions

/-! The command line of the distribution script: its options, the commands named with their own
options, and the plan they make. -/

namespace AdocLint.Package

def globalSwitches : List Switch := [
  { long := "verbose", short := some 'v', help := "run verbosely (default)" },
  { long := "quiet", short := some 'q', help := "run quietly (turns verbosity off)",
    negates := some "verbose" },
  { long := "dry-run", short := some 'n', help := "don't actually do anything" },
  { long := "help", short := some 'h', help := "show detailed help message" },
  { long := "no-user-cfg", help := "ignore pydistutils.cfg in your home directory" }]

def packagesSwitch : Switch :=
  { long := "command-packages", takesValue := true,
    help := "list of packages that provide distutils commands" }

def displaySwitches : List Switch := [
  { long := "help-commands", help := "list all available commands" },
  { long := "name", help := "print package name", query := some .name },
  { long := "version", short := some 'V', help := "print package version",
    query := some .version },
  { long := "fullname", help := "print <package name>-<version>", query := some .fullname },
  { long := "author", help := "print the author's name", query := some .author },
  { long := "author-email", help := "print the author's email address",
    query := some .authorEmail },
  { long := "maintainer", help := "print the maintainer's name", query := some .maintainer },
  { long := "maintainer-email", help := "print the maintainer's email address",
    query := some .maintainerEmail },
  { long := "contact", help := "print the maintainer's name if known, else the author's",
    query := some .contact },
  { long := "contact-email",
    help := "print the maintainer's email address if known, else the author's",
    query := some .contactEmail },
  { long := "url", help := "print the URL for this package", query := some .url },
  { long := "license", help := "print the license of the package", query := some .license },
  { long := "licence", help := "alias for --license", query := some .license },
  { long := "description", help := "print the package description",
    query := some .description },
  { long := "long-description", help := "print the long package description",
    query := some .longDescription },
  { long := "platforms", help := "print the list of platforms", query := some .platforms },
  { long := "classifiers", help := "print the list of classifiers",
    query := some .classifiers },
  { long := "keywords", help := "print the list of keywords", query := some .keywords },
  { long := "provides", help := "print the list of packages/modules provided",
    query := some .provides },
  { long := "requires", help := "print the list of packages/modules required",
    query := some .requires },
  { long := "obsoletes", help := "print the list of packages/modules made obsolete",
    query := some .obsoletes }]

def switches : List Switch := globalSwitches ++ [packagesSwitch] ++ displaySwitches

def Command.switches (c : Command) : List Switch :=
  globalSwitches ++ c.options ++ c.helpOptions.map (·.1)

def letterSpec (table : List Switch) : List Char :=
  (" ".intercalate (table.filterMap fun s =>
    s.short.map fun c =>
      if s.takesValue then String.ofList [c, ':'] else String.singleton c)).toList

def letterTakesValue (spec : List Char) (c : Char) : Option Bool :=
  if c == ':' then none
  else
    match spec.dropWhile (· != c) with
    | [] => none
    | _ :: rest => some (rest.head? == some ':')

inductive Given where
  | switch (s : Switch) (value : String)
  | nameless (c : Char)
  deriving Inhabited

def longSwitch (table : List Switch) (name : String) : Except String Switch :=
  match table.filter (fun s => s.long.startsWith name) with
  | [] => .error s!"option --{name} not recognized"
  | [s] => .ok s
  | cs =>
    match cs.find? (fun s => s.long == name) with
    | some s => .ok s
    | none => .error s!"option --{name} not a unique prefix"

def named (table : List Switch) (c : Char) (value : String) : Given :=
  match (table.filter (·.short == some c)).getLast? with
  | some s => .switch s value
  | none => .nameless c

def shortGivens (table : List Switch) (next : Option String) :
    List Char → Except String (List Given × Bool)
  | [] => .ok ([], false)
  | c :: cs =>
    match letterTakesValue (letterSpec table) c with
    | none => .error s!"option -{c} not recognized"
    | some true =>
      if cs.isEmpty then
        match next with
        | some v => .ok ([named table c v], true)
        | none => .error s!"option -{c} requires argument"
      else .ok ([named table c (String.ofList cs)], false)
    | some false => (shortGivens table next cs).map fun (gs, used) => (named table c "" :: gs, used)

def readOptionsWithin (table : List Switch) :
    Nat → List String → Except String (List Given × List String)
  | 0, words => .ok ([], words)
  | _ + 1, [] => .ok ([], [])
  | fuel + 1, w :: ws =>
    if w == "--" then .ok ([], ws)
    else if !(w.startsWith "-") || w == "-" then .ok ([], w :: ws)
    else if w.startsWith "--" then
      let body := (w.drop 2).toString
      let (name, attached) : String × Option String :=
        match body.splitOn "=" with
        | [n] => (n, none)
        | n :: _ => (n, some ((body.drop (n.length + 1)).toString))
        | [] => (body, none)
      match longSwitch table name with
      | .error e => .error e
      | .ok s =>
        if s.takesValue then
          match attached with
          | some v =>
            (readOptionsWithin table fuel ws).map fun (gs, rest) => (.switch s v :: gs, rest)
          | none =>
            match ws with
            | [] => .error s!"option --{s.long} requires argument"
            | v :: more =>
              (readOptionsWithin table fuel more).map fun (gs, rest) => (.switch s v :: gs, rest)
        else if attached.isSome then .error s!"option --{s.long} must not have an argument"
        else (readOptionsWithin table fuel ws).map fun (gs, rest) => (.switch s "" :: gs, rest)
    else
      match shortGivens table ws.head? (w.drop 1).toString.toList with
      | .error e => .error e
      | .ok (here, used) =>
        (readOptionsWithin table fuel (if used then ws.drop 1 else ws)).map fun (gs, rest) =>
          (here ++ gs, rest)

def readOptions (table : List Switch) (words : List String) :
    Except String (List Given × List String) :=
  readOptionsWithin table (words.length + 1) words

def usage : String :=
  "usage: setup.py [global_opts] cmd1 [cmd1_opts] [cmd2 [cmd2_opts] ...]\n" ++
  "   or: setup.py --help [cmd1 cmd2 ...]\n" ++
  "   or: setup.py --help-commands\n" ++
  "   or: setup.py cmd --help\n"

def wrapPieces : List Char → List (List Char)
  | [] => []
  | c :: cs =>
    let kind (d : Char) : Nat := if d == ' ' then 0 else if d == '-' then 1 else 2
    let run := cs.takeWhile (fun d => kind d == kind c)
    (c :: run) :: wrapPieces (cs.drop run.length)
termination_by cs => cs.length
decreasing_by simp only [List.length_drop, List.length_cons]; omega

def takeFitting (width : Nat) :
    Nat → List (List Char) → List (List Char) → List (List Char) × Nat × List (List Char)
  | used, line, [] => (line, used, [])
  | used, line, p :: ps =>
    if used + p.length ≤ width then takeFitting width (used + p.length) (line ++ [p]) ps
    else
      let line := match line.getLast? with
        | some (' ' :: _) => line.dropLast
        | _ => line
      (line, used, p :: ps)

def fillLine (width : Nat) (pieces : List (List Char)) : List Char × List (List Char) :=
  let (line, used, rest) := takeFitting width 0 [] pieces
  let (line, rest) := match used, rest with
    | 0, p :: ps => (line ++ [p.take width], p.drop width :: ps)
    | _, _ => (line, rest)
  let rest := match rest with
    | (' ' :: _) :: ps => ps
    | _ => rest
  (line.flatten, rest)

def wrapLines (width : Nat) : Nat → List (List Char) → List String
  | 0, _ => []
  | _, [] => []
  | fuel + 1, pieces =>
    let (line, rest) := fillLine width pieces
    String.ofList line :: wrapLines width fuel rest

def wrapHelp (text : String) (width : Nat) : List String :=
  if text.length ≤ width then [text]
  else
    let blank (c : Char) : Char :=
      if c == '\t' || c == '\n' || c == '\r' || c.toNat == 11 || c.toNat == 12 then ' ' else c
    wrapLines width (text.length + 1) (wrapPieces (text.toList.map blank))

def padRight (s : String) (width : Nat) : String :=
  s ++ String.ofList (List.replicate (width - s.length) ' ')

def helpLines (header : String) (table : List Switch) : List String :=
  let names (s : Switch) : String :=
    match s.short with
    | some c => s!"{s.long} (-{c})"
    | none => s.long
  let widest := table.foldl (fun m s => max m (names s).length) 0
  let column := widest + 6
  let width := 78 - column
  header :: table.flatMap fun s =>
    match wrapHelp s.help width with
    | [] => ["  --" ++ padRight (names s) widest ++ "  "]
    | first :: more =>
      ("  --" ++ padRight (names s) widest ++ "  " ++ first) ::
        more.map fun l => String.ofList (List.replicate column ' ') ++ l

def commonUsage : String :=
  "Common commands: (see '--help-commands' for more)\n\n" ++
  "  setup.py build      will build the package underneath 'build/'\n" ++
  "  setup.py install    will install the package\n"

def helpText (cmds : List Command) : String :=
  let block (ls : List String) : String := String.join (ls.map (· ++ "\n")) ++ "\n"
  let display := cmds.isEmpty
  block (helpLines (commonUsage ++ "\nGlobal options:")
    (if display then globalSwitches ++ [packagesSwitch] else globalSwitches)) ++
  (if display then
    block (helpLines
      "Information display options (just display information, ignore any commands)"
      displaySwitches)
  else "") ++
  String.join (cmds.map fun c =>
    block (helpLines s!"Options for '{c.name}' command:"
      (c.options ++ c.helpOptions.map (·.1)))) ++
  usage ++ "\n"

def commandLines (header : String) (width : Nat) (cmds : List Command) : String :=
  header ++ ":\n" ++ String.join (cmds.map fun c =>
    "  " ++ padRight c.name width ++ "  " ++ c.description ++ "\n")

def commandList : String :=
  let standard := commands.filter (·.listing == .standard)
  let extra := commands.filter (·.listing == .extra)
  let width := (standard ++ extra).foldl (fun m c => max m c.name.length) 0
  commandLines "Standard commands" width standard ++ "\n" ++
    commandLines "Extra commands" width extra

def usageStop (message : String) : Outcome :=
  { stdout := "", ending := .stopped (usage ++ "\nerror: " ++ message) }

def isCommandName (w : String) : Bool :=
  let cs := w.toList
  let cs := if cs.getLast? == some '\n' then cs.dropLast else cs
  match cs with
  | c :: rest => c.isAlpha && rest.all fun d => d.isAlphanum || d == '_'
  | [] => false

def chosenSwitches : List Given → Except Fault (List Switch)
  | [] => .ok []
  | .switch s _ :: gs => (chosenSwitches gs).map (s :: ·)
  | .nameless c :: _ => .error (.missingKey (.str (String.singleton c)))

def optionTable (givens : List Given) : Except Fault OptionTable :=
  givens.foldlM (fun t g => match g with
    | .nameless c => .error (.missingKey (.str (String.singleton c)))
    | .switch s v =>
      let attr := s.attribute
      let value : OptionValue :=
        if s.takesValue then .text v
        else if s.negates.isSome then .count 0
        else if s.long.contains '-' then .count 1
        else .count (match t.lookup attr with
          | some (.count n) => n + 1
          | _ => 1)
      .ok (t.set attr value)) []

def settingsOf (givens : List Given) : Settings :=
  givens.foldl (fun st g => match g with
    | .switch s v =>
      match s.long with
      | "verbose" => { st with verbosity := st.verbosity + 1 }
      | "quiet" => { st with verbosity := 0 }
      | "dry-run" => { st with dryRun := true }
      | "command-packages" => { st with commandPackages := some v }
      | _ => st
    | .nameless _ => st) {}

def commandPackages (named : Option String) : List String :=
  let pkgs := (((named.getD "").splitOn ",").filter (· != "")).map Text.trim
  if pkgs.contains "distutils.command" then pkgs else "distutils.command" :: pkgs

def searchPackages (w : String) : List String → Except Fault (Except String Command)
  | [] => .ok (.error s!"invalid command '{w}'")
  | p :: ps =>
    match moduleMember? p w with
    | none => searchPackages w ps
    | some none => .ok (.error s!"invalid command '{w}' (no class '{w}' in module '{p}.{w}')")
    | some (some (.foreignClass shown)) => .error (.notCommandClass shown)
    | some (some .notClass) => .error (.wrongType "issubclass() arg 1 must be a class")

def findCommand (named : Option String) (w : String) : Except Fault (Except String Command) :=
  match commands.find? (·.name == w) with
  | some c => .ok (.ok c)
  | none => searchPackages w (commandPackages named)

inductive Reading where
  | answered (o : Outcome)
  | planned (names : List String) (options : List (String × OptionTable))

def readCommands (help : Bool) (packages : Option String) :
    Nat → List Command → List String → List (String × OptionTable) → List String →
      Except Fault Reading
  | 0, _, _, _, _ => return .answered { stdout := "", ending := .returned }
  | _ + 1, seen, names, options, [] =>
    if help then return .answered { stdout := helpText seen, ending := .returned }
    else if seen.isEmpty then return .answered (usageStop "no commands supplied")
    else return .planned names options
  | fuel + 1, seen, names, options, w :: ws => do
    if !isCommandName w then
      return .answered { stdout := "", ending := .stopped s!"invalid command name '{w}'" }
    match ← findCommand packages w with
    | .error m => return .answered (usageStop m)
    | .ok c =>
      let seen := seen ++ [c]
      match readOptions c.switches ws with
      | .error e => return .answered (usageStop e)
      | .ok (givens, rest) =>
        let chosen ← chosenSwitches givens
        if chosen.any (·.long == "help") then
          return .answered { stdout := helpText seen, ending := .returned }
        let shown := c.helpOptions.filter fun (s, _) => chosen.any (·.long == s.long)
        if !shown.isEmpty then
          return .answered { stdout := String.join (shown.map (·.2)), ending := .returned }
        let table ← optionTable givens
        if c.consumesArguments then
          let table := table.set "args" (.words rest)
          readCommands help packages fuel seen (names ++ [w]) (mergeOptions options w table) []
        else
          readCommands help packages fuel seen (names ++ [w]) (mergeOptions options w table) rest

def runWith (m : Metadata) (args : List String) : Except Fault Outcome := do
  match readOptions switches args with
  | .error e => return usageStop e
  | .ok (givens, rest) =>
    let chosen ← chosenSwitches givens
    if chosen.any (·.long == "help-commands") then
      return { stdout := commandList ++ "\n" ++ usage ++ "\n", ending := .returned }
    let queries := chosen.filterMap (·.query)
    if !queries.isEmpty then
      let answers ← queries.mapM (Query.answer m)
      return { stdout := String.join (answers.map (· ++ "\n")), ending := .returned }
    let settings := settingsOf givens
    match ← readCommands (chosen.any (·.long == "help")) settings.commandPackages
        (rest.length + 1) [] [] [] rest with
    | .answered o => return o
    | .planned names options =>
      Plan.execute { settings := settings, commands := names, options := options }

def run (args : List String) : Except Fault Outcome :=
  runWith distribution args

end AdocLint.Package
