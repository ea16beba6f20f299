import AdocLint.Package.Plan
import AdocLint.Package.WorkingTree
import AdocLint.Package.Metadata
import AdocLint.Package.Version
import AdocLint.Text.Numeral
import AdocLint.Text.Blank

/-! The steps of running the distribution script's commands in the working directory, and the
commands that only prepare, report or edit configuration files. -/

namespace AdocLint.Package

inductive Level where
  | debug
  | info
  deriving DecidableEq, Repr

inductive Halt where
  | stop (message : String)
  | fault (f : Fault)

structure Session where
  plan : Plan
  stdout : String := ""
  tree : WorkingTree := .initial
  made : List String := []
  finalized : List String := []
  done : List String := []
  announced : List String := []
  fileList : List String := []

abbrev SessionM := ExceptT Halt (StateM Session)

def platformName : String := "linux-x86_64"

def interpreterTag : String := "cpython-311"

def interpreterVersion : String := "3.11"

def globalConfigFile : String :=
  "/usr/local/lib/python3.11/site-packages/setuptools/_distutils/distutils.cfg"

def userConfigFile : String := "/root/.pydistutils.cfg"

def eggInfoName : String := distribution.name.replace "-" "_" ++ ".egg-info"

def say (level : Level) (msg : String) : SessionM Unit :=
  modify fun s =>
    let least : Nat := match level with
      | .debug => 2
      | .info => 1
    if s.plan.settings.verbosity ≥ least then { s with stdout := s.stdout ++ msg ++ "\n" } else s

def printLine (msg : String) : SessionM Unit :=
  modify fun s => { s with stdout := s.stdout ++ msg ++ "\n" }

def stopWith {α : Type} (msg : String) : SessionM α :=
  throw (.stop ("error: " ++ msg))

def failWith {α : Type} (f : Fault) : SessionM α :=
  throw (.fault f)

def optionsOf (cmd : String) : SessionM OptionTable :=
  return (← get).plan.optionsOf cmd

def dryRunOf (cmd : String) : SessionM Bool := do
  let s ← get
  match (s.plan.optionsOf cmd).lookup "dry_run" with
  | some v => return v.isSet
  | none => return s.plan.settings.dryRun

def isWhole (t : String) : Bool :=
  (Text.readInt 10 t.toList).toOption.isSome

def make (cmd : String) : SessionM Unit := do
  let s ← get
  unless s.made.contains cmd do
    if (s.plan.optionsOf cmd).any (·.1 == "no_user_cfg") then
      stopWith s!"error in command line: command '{cmd}' has no such option 'no_user_cfg'"
    modify fun s => { s with made := s.made ++ [cmd] }

def finalizeWith (cmd : String) (body : SessionM Unit) : SessionM Unit := do
  make cmd
  unless (← get).finalized.contains cmd do
    body
    modify fun s => { s with finalized := s.finalized ++ [cmd] }

def reinitialize (cmd : String) : SessionM Unit :=
  modify fun s =>
    { s with
      finalized := s.finalized.filter (· != cmd)
      done := s.done.filter (· != cmd) }

def runOnce (cmd : String) (fin work : SessionM Unit) : SessionM Unit := do
  unless (← get).done.contains cmd do
    say .info ("running " ++ cmd)
    fin
    work
    modify fun s => { s with done := s.done ++ [cmd] }

def finalizeBuild : SessionM Unit := finalizeWith "build" do
  let t ← optionsOf "build"
  if (t.lookup "plat_name").isSome then
    stopWith ("--plat-name only supported on Windows (try using './configure --help' on " ++
      "your platform)")
  if let some jobs := t.text? "parallel" then
    unless isWhole jobs do stopWith "parallel should be an integer"

def finalizeBdist : SessionM Unit := finalizeWith "bdist" do
  let t ← optionsOf "bdist"
  if (t.lookup "plat_name").isNone && !t.isSet "skip_build" then finalizeBuild
  if (t.lookup "bdist_base").isNone then finalizeBuild

def buildBase : SessionM String :=
  return ((← optionsOf "build").text? "build_base").getD "build"

def cleanDirectories : SessionM (String × String × String × String) := do
  let c ← optionsOf "clean"
  let b ← optionsOf "build"
  let d ← optionsOf "bdist"
  let base ← buildBase
  let temp := (c.text? "build_temp").getD ((b.text? "build_temp").getD
    (joinPath base ("temp." ++ platformName ++ "-" ++ interpreterTag)))
  let lib := (c.text? "build_lib").getD ((b.text? "build_lib").getD
    ((b.text? "build_purelib").getD (joinPath base "lib")))
  let bdistBase := (c.text? "bdist_base").getD ((d.text? "bdist_base").getD
    (joinPath base ("bdist." ++ (d.text? "plat_name").getD platformName)))
  let scripts := (c.text? "build_scripts").getD ((b.text? "build_scripts").getD
    (joinPath base ("scripts-" ++ interpreterVersion)))
  return (temp, lib, bdistBase, scripts)

def removeTree (p : String) (dry : Bool) : SessionM Unit := do
  say .info ("removing '" ++ p ++ "' (and everything under it)")
  unless dry do
    if (← get).tree.isFile p then stopWith ("[Errno 20] Not a directory: " ++ Text.quote p)
    let n := normPath p
    modify fun s =>
      { s with
        tree := s.tree.removeTree p
        announced := s.announced.filter fun q => !(q == n || q.startsWith (n ++ "/")) }

def runClean : SessionM Unit := do
  let dry ← dryRunOf "clean"
  let (temp, lib, bdistBase, scripts) ← cleanDirectories
  if (← get).tree.pathExists temp then removeTree temp dry
  else say .debug ("'" ++ temp ++ "' does not exist -- can't clean it")
  if (← optionsOf "clean").isSet "all" then
    for d in [lib, bdistBase, scripts] do
      if (← get).tree.pathExists d then removeTree d dry
  let base := ((← optionsOf "clean").text? "build_base").getD (← buildBase)
  let tree := (← get).tree
  if !dry && tree.entry? base == some .directory && (tree.under base).isEmpty then
    say .info ("removing '" ++ base ++ "'")
    modify fun s => { s with tree := s.tree.removeTree base }

def runCheck : SessionM Unit := do
  let t ← optionsOf "check"
  if t.isSet "restructuredtext" && t.isSet "strict" then
    stopWith "The docutils package is needed."

def finalizeBuildPy : SessionM Unit := finalizeWith "build_py" do
  finalizeBuild
  if let some level := (← optionsOf "build_py").text? "optimize" then
    match Text.readInt 10 level.toList with
    | .ok v => unless 0 ≤ v && v ≤ 2 do stopWith "optimize must be 0, 1, or 2"
    | .error _ => stopWith "optimize must be 0, 1, or 2"

def finalizeBuildExt : SessionM Unit := finalizeWith "build_ext" do
  finalizeBuild
  if let some jobs := (← optionsOf "build_ext").text? "parallel" then
    unless isWhole jobs do stopWith "parallel should be an integer"

def eggBase : SessionM String :=
  return ((← optionsOf "egg_info").text? "egg_base").getD "."

def eggInfoPath : SessionM String := do
  let base ← eggBase
  return if base == "." then eggInfoName else joinPath base eggInfoName

def finalizeEggInfo : SessionM Unit := finalizeWith "egg_info" do
  let base ← eggBase
  unless (← get).tree.isDirectory base do
    stopWith ("error in 'egg_base' option: '" ++ base ++ "' does not exist or is not a directory")

def climbFrom (t : WorkingTree) : Nat → String → List String → String × List String
  | 0, head, tails => (head, tails)
  | fuel + 1, head, tails =>
    match tails with
    | tail :: _ =>
      if head.isEmpty || tail.isEmpty || t.isDirectory head then (head, tails)
      else
        let (h, t') := splitPath head
        climbFrom t fuel h (t' :: tails)
    | [] => (head, tails)

def makeDirs (p : String) (dry : Bool) : SessionM Unit := do
  let n := normPath p
  let s ← get
  unless s.tree.isDirectory n || s.announced.contains n do
    let (head, tail) := splitPath n
    let (top, parts) := climbFrom s.tree (n.length + 1) head [tail]
    let mut at_ := top
    for d in parts do
      let parent := at_
      at_ := joinPath at_ d
      unless (← get).announced.contains (normPath at_) do
        say .info ("creating " ++ at_)
        unless dry do
          let t := (← get).tree
          if t.isFile at_ then stopWith ("could not create '" ++ at_ ++ "': File exists")
          unless parent.isEmpty || t.isDirectory parent do
            stopWith ("could not create '" ++ at_ ++ "': No such file or directory")
          modify fun s => { s with tree := s.tree.addDirectory at_ }
        modify fun s => { s with announced := s.announced ++ [normPath at_] }

def writeFile (p : String) (e : Entry := .file) : SessionM Unit := do
  match (← get).tree.write p e with
  | .ok t => modify fun s => { s with tree := t }
  | .error m => stopWith m

def copyFile (src dst : String) (dry : Bool) : SessionM Unit := do
  let t := (← get).tree
  unless t.isFile src do
    stopWith ("can't copy '" ++ src ++ "': doesn't exist or not a regular file")
  let (target, place) :=
    if t.isDirectory dst then (joinPath dst (baseName src), dst) else (dst, dirName dst)
  if t.pathExists target then say .debug ("not copying " ++ src ++ " (output up-to-date)")
  else
    say .info ("copying " ++ src ++ " -> " ++ (if baseName target == baseName src then place
      else target))
    unless dry do
      match t.write target ((t.entry? src).getD .file) with
      | .ok t' => modify fun s => { s with tree := t' }
      | .error _ => stopWith ("could not create '" ++ target ++ "': No such file or directory")

def lies (f dir : String) : Bool :=
  f.startsWith (if dir.endsWith "/" then dir else dir ++ "/")

def inVersionControl (f : String) : Bool :=
  (f.splitOn "/").dropLast.any fun part => part == "RCS" || part == "CVS" || part == ".svn"

def sortPaths (fs : List String) : List String :=
  fs.mergeSort fun a b =>
    let (da, na) := splitPath a
    let (db, nb) := splitPath b
    decide (da < db) || (da == db && decide (na ≤ nb))

def dropRepeats : List String → List String
  | a :: b :: rest => if a == b then dropRepeats (b :: rest) else a :: dropRepeats (b :: rest)
  | l => l

def manifestFiles (t : WorkingTree) (eggInfo buildBase treeName : String) : List String :=
  let standard := ["pyproject.toml", "setup.cfg"].filter t.isFile
  let grafted := (t.under eggInfo).filterMap fun (rel, e) =>
    if e == .directory then none else some (joinPath eggInfo rel)
  let all := standard ++ [joinPath eggInfo "SOURCES.txt"] ++ grafted
  let kept := all.filter fun f => !lies f buildBase && !lies f treeName && !inVersionControl f
  dropRepeats (sortPaths kept)

def taggedDistributionVersion : SessionM String := do
  let tags := ((← optionsOf "egg_info").text? "tag_build").getD ""
  return taggedVersion distribution.version tags

def fullName : SessionM String :=
  return distribution.name ++ "-" ++ (← taggedDistributionVersion)

def runEggInfo : SessionM Unit := do
  let e ← eggInfoPath
  let dry ← dryRunOf "egg_info"
  makeDirs e dry
  unless (← get).tree.isDirectory e do
    stopWith "[Errno 2] No such file or directory"
  say .info ("writing " ++ joinPath e "PKG-INFO")
  writeFile (joinPath e "PKG-INFO")
  for (what, name) in [("dependency_links", "dependency_links.txt"),
      ("entry points", "entry_points.txt"), ("requirements", "requires.txt"),
      ("top-level names", "top_level.txt")] do
    say .info ("writing " ++ what ++ " to " ++ joinPath e name)
    writeFile (joinPath e name)
  let manifest := joinPath e "SOURCES.txt"
  say .info ("writing manifest file '" ++ manifest ++ "'")
  writeFile manifest
  finalizeBuild
  unless dry do say .info ("reading manifest file '" ++ manifest ++ "'")
  say .info ("writing manifest file '" ++ manifest ++ "'")
  let files := manifestFiles (← get).tree e (← buildBase) (← fullName)
  modify fun s => { s with fileList := files }

def finalizeRotate : SessionM Unit := finalizeWith "rotate" do
  let t ← optionsOf "rotate"
  if (t.lookup "match").isNone then
    stopWith ("Must specify one or more (comma-separated) match patterns (e.g. '.zip' or " ++
      "'.egg')")
  match t.text? "keep" with
  | none => stopWith "Must specify number of files to keep"
  | some k => unless isWhole k do stopWith "--keep must be an integer"
  finalizeBdist

def globMatches : List Char → List Char → Bool
  | [], name => name.isEmpty
  | '*' :: rest, name =>
    globMatches rest name || match name with
      | _ :: more => globMatches ('*' :: rest) more
      | [] => false
  | '?' :: rest, _ :: more => globMatches rest more
  | c :: rest, d :: more => c == d && globMatches rest more
  | _ :: _, [] => false
termination_by pattern name => pattern.length + name.length

def runRotate : SessionM Unit := do
  runOnce "egg_info" finalizeEggInfo runEggInfo
  let t ← optionsOf "rotate"
  let keep : Int := match Text.readInt 10 ((t.text? "keep").getD "0").toList with
    | .ok k => k
    | .error _ => 0
  let distDir := (t.text? "dist_dir").getD (((← optionsOf "bdist").text? "dist_dir").getD "dist")
  let dry ← dryRunOf "rotate"
  let patterns := ((t.text? "match").getD "").splitOn ","
  for p in patterns do
    let pattern := distribution.name ++ "*" ++ Text.trim p
    let found := ((← get).tree.under distDir).filterMap fun (rel, _) =>
      if !rel.contains '/' && globMatches pattern.toList rel.toList then some (joinPath distDir rel)
      else none
    let newest := found.reverse
    say .info (toString newest.length ++ " file(s) matching " ++ pattern)
    let doomed := if keep ≥ 0 then newest.drop keep.toNat
      else newest.drop (newest.length - (-keep).toNat)
    for f in doomed do
      say .info ("Deleting " ++ f)
      unless dry do modify fun s => { s with tree := s.tree.removeTree f }

def configTarget (cmd : String) : SessionM String := do
  let t ← optionsOf cmd
  let names := (if t.isSet "global_config" then [globalConfigFile] else []) ++
    (if t.isSet "user_config" then [userConfigFile] else []) ++ (t.text? "filename").toList
  match names with
  | [] => return "setup.cfg"
  | [f] => return f
  | _ => stopWith ("('Must specify only one configuration file option', [" ++
      ", ".intercalate (names.map Text.quote) ++ "])")

def setSetting (sections : List (String × List String)) (sec option : String) :
    List (String × List String) :=
  if sections.any (·.1 == sec) then
    sections.map fun (n, ks) => if n == sec && !ks.contains option then (n, ks ++ [option])
      else (n, ks)
  else sections ++ [(sec, [option])]

def editConfig (file : String) (changes : List (String × List (String × Option OptionValue)))
    (dry : Bool) : SessionM Unit := do
  say .debug ("Reading configuration from " ++ file)
  let mut sections ← match (← get).tree.readSettings file with
    | .ok ss => pure ss
    | .error f => failWith f
  for (sec, settings) in changes do
    unless sections.any (·.1 == sec) do
      say .debug ("Adding new section [" ++ sec ++ "] to " ++ file)
      if sec == "DEFAULT" then failWith (.reservedSection sec)
      sections := sections ++ [(sec, [])]
    for (option, value) in settings do
      match value with
      | none =>
        say .debug ("Deleting " ++ sec ++ "." ++ option ++ " from " ++ file)
        sections := sections.map fun (n, ks) =>
          if n == sec then (n, ks.filter (· != option)) else (n, ks)
        if ((sections.lookup sec).getD []).isEmpty then
          say .info ("Deleting empty [" ++ sec ++ "] section from " ++ file)
          sections := sections.filter (·.1 != sec)
      | some v =>
        say .debug ("Setting " ++ sec ++ "." ++ option ++ " to " ++ v.literal ++ " in " ++
          file)
        sections := setSetting sections sec option
  say .info ("Writing " ++ file)
  unless dry do
    match (← get).tree.writeSettings file sections with
    | .ok t => modify fun s => { s with tree := t }
    | .error m => stopWith m

def shellQuote (arg : String) : String :=
  if arg.any (fun c => c == '"' || c == '\'' || c == '\\' || c == '#' || Text.isBlank c) ||
    arg.isEmpty then Text.quote arg
  else arg

def aliasArguments (t : OptionTable) : List String :=
  match t.lookup "args" with
  | some (.words ws) => ws
  | _ => []

def finalizeAlias : SessionM Unit := finalizeWith "alias" do
  let _ ← configTarget "alias"
  let t ← optionsOf "alias"
  if t.isSet "remove" && (aliasArguments t).length != 1 then
    stopWith "Must specify exactly one argument (the alias name) when using --remove"

def runAlias : SessionM Unit := do
  let file ← configTarget "alias"
  let t ← optionsOf "alias"
  let dry ← dryRunOf "alias"
  match aliasArguments t with
  | [] =>
    printLine "Command Aliases"
    printLine "---------------"
  | [a] =>
    if t.isSet "remove" then editConfig file [("aliases", [(a, none)])] dry
    else printLine ("No alias definition found for " ++ Text.quote a)
  | a :: rest =>
    editConfig file [("aliases", [(a, some (.text (" ".intercalate (rest.map shellQuote))))])] dry

def runSaveopts : SessionM Unit := do
  let file ← configTarget "saveopts"
  let changes := (← get).plan.options.filterMap fun (cmd, t) =>
    if cmd == "saveopts" || t.isEmpty then none else some (cmd, t.map fun (a, v) => (a, some v))
  editConfig file changes (← dryRunOf "saveopts")

def finalizeSetopt : SessionM Unit := finalizeWith "setopt" do
  let _ ← configTarget "setopt"
  let t ← optionsOf "setopt"
  if (t.lookup "command").isNone || (t.lookup "option").isNone then
    stopWith "Must specify --command *and* --option"
  if (t.lookup "set_value").isNone && !t.isSet "remove" then
    stopWith "Must specify --set-value or --remove"

def runSetopt : SessionM Unit := do
  let file ← configTarget "setopt"
  let t ← optionsOf "setopt"
  let command := (t.text? "command").getD ""
  let option := ((t.text? "option").getD "").replace "-" "_"
  editConfig file [(command, [(option, t.lookup "set_value")])] (← dryRunOf "setopt")

end AdocLint.Package
