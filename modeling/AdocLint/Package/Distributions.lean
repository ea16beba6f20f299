import AdocLint.Package.Session

/-! Building source distributions, eggs and wheels and installing, and the dispatch of the
script's commands. -/

namespace AdocLint.Package

def tarEndings : List (String × String) :=
  [("gztar", ".gz"), ("bztar", ".bz2"), ("xztar", ".xz"), ("ztar", ""), ("tar", "")]

def isArchiveFormat (f : String) : Bool := f == "zip" || (tarEndings.lookup f).isSome

def listWords (s : String) : List String :=
  go s.toList [] false
where
  go : List Char → List Char → Bool → List String
    | [], word, _ => [String.ofList word.reverse]
    | c :: rest, word, cut =>
      if cut && Text.isBlank c then go rest word true
      else if c == ',' || Text.isBlank c then String.ofList word.reverse :: go rest [] true
      else go rest (c :: word) false

def packingOrder (fs : List String) : List String :=
  match fs.idxOf? "tar" with
  | some i => fs.eraseIdx i ++ ["tar"]
  | none => fs

def commandLine (args : List String) : String :=
  " ".intercalate (args.map fun arg =>
    let quoted := arg.isEmpty || arg.any (fun c => c == ' ' || c == '\t')
    let (body, pending) := arg.toList.foldl (fun (acc : String × Nat) c =>
      let (out, slashes) := acc
      if c == '\\' then (out, slashes + 1)
      else if c == '"' then (out ++ "".pushn '\\' (2 * slashes) ++ "\\\"", 0)
      else (out ++ "".pushn '\\' slashes |>.push c, 0)) ("", 0)
    let tail := "".pushn '\\' (if quoted then 2 * pending else pending)
    if quoted then "\"" ++ body ++ tail ++ "\"" else body ++ tail)

def walkLines (entries : List (String × Entry)) (top : String) : Nat → String → List String
  | 0, _ => []
  | fuel + 1, dir =>
    let children := entries.filter fun (rel, _) => dirName rel == dir && rel != dir
    let subdirs := (children.filter (·.2 == .directory)).map (·.1)
    let files := (children.filter (·.2 != .directory)).map (·.1)
    (subdirs ++ files).map (fun rel => "adding '" ++ normPath (joinPath top rel) ++ "'") ++
      subdirs.flatMap (walkLines entries top fuel)

def sortedFiles (entries : List (String × Entry)) : Nat → String → List String
  | 0, _ => []
  | fuel + 1, dir =>
    let children := entries.filter fun (rel, _) => dirName rel == dir && rel != dir
    let byName (xs : List String) := xs.mergeSort fun a b => decide (a ≤ b)
    byName ((children.filter (·.2 != .directory)).map (·.1)) ++
      (byName ((children.filter (·.2 == .directory)).map (·.1))).flatMap
        (sortedFiles entries fuel)

def fromBdist (cmd attr : String) : SessionM (Option String) := do
  match (← optionsOf cmd).text? attr with
  | some v => return some v
  | none => return (← optionsOf "bdist").text? attr

def distDirOf (cmd : String) : SessionM String :=
  return (← fromBdist cmd "dist_dir").getD "dist"

def bdistBase : SessionM String := do
  match (← optionsOf "bdist").text? "bdist_base" with
  | some b => return b
  | none =>
    let plat := ((← optionsOf "bdist").text? "plat_name").getD platformName
    return joinPath (← buildBase) ("bdist." ++ plat)

def bdistTree (cmd kind : String) : SessionM String := do
  match (← optionsOf cmd).text? "bdist_dir" with
  | some d => return d
  | none => return joinPath (← bdistBase) kind

def builtName : SessionM String := do
  let version ← taggedDistributionVersion
  return distribution.name.replace "-" "_" ++ "-" ++ version.replace "-" "_" ++ "-py" ++
    interpreterVersion

def sitePackages : String :=
  "/usr/local/lib/python" ++ interpreterVersion ++ "/site-packages"

def scriptsDirectory : String := "/usr/local/bin"

def changeRoot (root p : String) : String :=
  joinPath root (if p.startsWith "/" then String.ofList (p.toList.drop 1) else p)

def runCheckOnce : SessionM Unit :=
  runOnce "check" (finalizeWith "check" (pure ())) runCheck

def runEggInfoOnce : SessionM Unit :=
  runOnce "egg_info" finalizeEggInfo runEggInfo

/-! ### The source distribution -/

def sourceFormats : SessionM (List String) :=
  return match (← optionsOf "sdist").text? "formats" with
    | some f => listWords f
    | none => ["gztar"]

def finalizeSdist : SessionM Unit := finalizeWith "sdist" do
  if let some bad := (← sourceFormats).find? (!isArchiveFormat ·) then
    stopWith ("unknown archive format '" ++ bad ++ "'")

def makeSourceTree (tree : String) (files : List String) (dry : Bool) : SessionM Unit := do
  makeDirs tree dry
  let needed := dropRepeats ((files.map fun f => joinPath tree (dirName f)).mergeSort
    fun a b => decide (a ≤ b))
  for d in needed do makeDirs d dry
  unless files.isEmpty do say .info ("copying files to " ++ tree ++ "...")
  for f in files do
    if (← get).tree.isFile f then copyFile f (joinPath tree f) dry
  writeFile (joinPath tree "PKG-INFO")
  let tags := ((← optionsOf "egg_info").text? "tag_build").getD ""
  editConfig (joinPath tree "setup.cfg")
    [("egg_info", [("tag_build", some (.text tags)), ("tag_date", some (.count 0))])] false

def packArchive (base tree fmt : String) (dry : Bool) : SessionM Unit := do
  if fmt == "zip" then
    let name := base ++ ".zip"
    makeDirs (dirName name) dry
    say .info ("creating '" ++ name ++ "' and adding '" ++ tree ++ "' to it")
    unless dry do
      if tree != "." then say .info ("adding '" ++ normPath tree ++ "'")
      let entries := (← get).tree.under tree
      for line in walkLines entries tree (entries.length + 1) "" do say .info line
      writeFile name
  else
    let name := base ++ ".tar" ++ ((tarEndings.lookup fmt).getD "")
    makeDirs (dirName name) dry
    say .info "Creating tar archive"
    unless dry do writeFile name
    if fmt == "ztar" then
      say .info (commandLine ["compress", "-f", name])
      unless dry do stopWith "command 'compress' failed: No such file or directory"

def runSdist : SessionM Unit := do
  runEggInfoOnce
  let own := joinPath (← eggInfoPath) "SOURCES.txt"
  if (← get).tree.pathExists own then modify fun s => { s with fileList := s.fileList ++ [own] }
  runCheckOnce
  let dry ← dryRunOf "sdist"
  let t ← optionsOf "sdist"
  let tree ← fullName
  makeSourceTree tree (← get).fileList dry
  let base := joinPath ((t.text? "dist_dir").getD "dist") tree
  for fmt in packingOrder (← sourceFormats) do packArchive base tree fmt dry
  unless t.isSet "keep_temp" do removeTree tree dry

/-! ### Installing -/

def finalizeInstall : SessionM Unit := finalizeWith "install" (pure ())

def installMetadata (dir : String) : SessionM Unit := do
  runEggInfoOnce
  let source ← eggInfoPath
  let target := joinPath (joinPath dir "") ((← builtName) ++ ".egg-info")
  let dry ← dryRunOf "install_egg_info"
  let tree := (← get).tree
  if tree.isDirectory target then removeTree target dry
  else if tree.pathExists target then
    say .info ("Removing " ++ target)
    unless dry do modify fun s => { s with tree := s.tree.removeTree target }
  unless dry do modify fun s => { s with tree := s.tree.addDirectories (dirName target) }
  say .info ("Copying " ++ source ++ " to " ++ target)
  unless dry do
    for (rel, e) in (← get).tree.under source do
      if e != .directory then
        let dst := joinPath target rel
        say .debug ("Copying " ++ rel ++ " to " ++ dst)
        modify fun s => { s with tree := (s.tree.addDirectories (dirName dst)).put dst e }

def installScripts (dir : Option String) : SessionM Unit := do
  runEggInfoOnce
  if let some d := dir then
    say .info ("Installing " ++ distribution.name ++ " script to " ++ d)
    unless (← dryRunOf "install_scripts") do
      modify fun s =>
        { s with tree := (s.tree.addDirectories d).put (joinPath d distribution.name) .file }

def installAll (libDir : String) (scriptsDir : Option String) (skipBuild : Bool) :
    SessionM Unit :=
  runOnce "install" finalizeInstall do
    unless skipBuild do runOnce "build" finalizeBuild (pure ())
    runOnce "install_egg_info" (finalizeWith "install_egg_info" (do
      finalizeWith "install_lib" finalizeInstall; finalizeEggInfo)) (installMetadata libDir)
    runOnce "install_scripts" (finalizeWith "install_scripts" finalizeInstall)
      (installScripts scriptsDir)

def reinitializeInstall : SessionM Unit := do
  for c in ["install", "install_lib", "install_headers", "install_scripts", "install_data",
      "install_egg_info"] do
    reinitialize c

/-! ### The egg -/

def finalizeBdistEgg : SessionM Unit := finalizeWith "bdist_egg" do
  finalizeEggInfo
  finalizeBdist

def runBdistEgg : SessionM Unit := do
  runEggInfoOnce
  let t ← optionsOf "bdist_egg"
  let dry ← dryRunOf "bdist_egg"
  let tree ← bdistTree "bdist_egg" "egg"
  say .info ("installing library code to " ++ tree)
  finalizeInstall
  reinitialize "install_lib"
  runOnce "install_lib" (finalizeWith "install_lib" finalizeInstall) (pure ())
  let metadata := joinPath tree "EGG-INFO"
  makeDirs metadata dry
  let pfx := joinPath (normPath (← eggInfoPath)) ""
  for path in (← get).fileList do
    if path.startsWith pfx then
      let target := joinPath metadata (String.ofList (path.toList.drop pfx.length))
      modify fun s => { s with tree := s.tree.addDirectories (dirName target) }
      copyFile path target dry
  writeFile (joinPath metadata "zip-safe")
  if t.isSet "exclude_source_files" then
    say .info "Removing .py files from temporary directory"
  let output := joinPath (← distDirOf "bdist_egg") ((← builtName) ++ ".egg")
  makeDirs (dirName output) dry
  say .info ("creating '" ++ output ++ "' and adding '" ++ tree ++ "' to it")
  let entries := (← get).tree.under tree
  for p in sortedFiles entries (entries.length + 1) "" do say .debug ("adding '" ++ p ++ "'")
  unless dry do writeFile output
  unless t.isSet "keep_temp" do removeTree tree dry

/-! ### The wheel -/

def isLimitedApiTag (s : String) : Bool :=
  match s.toList with
  | 'c' :: 'p' :: '3' :: d :: _ => Text.isDigit d
  | _ => false

def finalizeBdistWheel : SessionM Unit := finalizeWith "bdist_wheel" do
  let t ← optionsOf "bdist_wheel"
  if (t.lookup "bdist_dir").isNone then finalizeBdist
  finalizeEggInfo
  if let some c := t.text? "compression" then
    unless c == "stored" || c == "deflated" do
      failWith (.refusedValue ("Unsupported compression: " ++ c))
  finalizeBdist
  if let some api := t.text? "py_limited_api" then
    unless api.isEmpty || isLimitedApiTag api do
      failWith (.refusedValue "py-limited-api must match 'cp3\\d'")
  if let some b := t.text? "build_number" then
    unless b.toList.head?.any Text.isDigit do
      failWith (.refusedValue "Build tag (build-number) must start with a digit.")

def runBdistWheel : SessionM Unit := do
  let t ← optionsOf "bdist_wheel"
  let skip := t.isSet "skip_build" || (← optionsOf "bdist").isSet "skip_build"
  reinitialize "build_scripts"
  reinitialize "build_ext"
  unless skip do runOnce "build" finalizeBuild (pure ())
  reinitializeInstall
  let tree ← bdistTree "bdist_wheel" "wheel"
  installAll (joinPath tree "") none skip
  let distDir ← distDirOf "bdist_wheel"
  let wheel := distribution.name.replace "-" "_" ++ "-" ++ (← taggedDistributionVersion)
  let installed := joinPath (joinPath tree "") ((← builtName) ++ ".egg-info")
  modify fun s =>
    { s with
      tree := ((s.tree.removeTree installed).put
        (joinPath tree (wheel ++ ".dist-info")) .directory |>.addDirectories distDir).put
        (joinPath distDir (wheel ++ "-py3-none-any.whl")) .file }
  unless t.isSet "keep_temp" || (← dryRunOf "bdist_wheel") do
    modify fun s => { s with tree := s.tree.removeTree tree }

/-! ### Running commands -/

def runCommand (cmd : String) : SessionM Unit :=
  match cmd with
  | "build" => runOnce cmd finalizeBuild (pure ())
  | "build_py" => runOnce cmd finalizeBuildPy (pure ())
  | "build_ext" => runOnce cmd finalizeBuildExt (pure ())
  | "build_clib" => runOnce cmd (finalizeWith cmd finalizeBuild) (pure ())
  | "build_scripts" => runOnce cmd (finalizeWith cmd finalizeBuild) (pure ())
  | "clean" => runOnce cmd (finalizeWith cmd (do finalizeBuild; finalizeBdist)) runClean
  | "check" => runCheckOnce
  | "egg_info" => runEggInfoOnce
  | "rotate" => runOnce cmd finalizeRotate runRotate
  | "alias" => runOnce cmd finalizeAlias runAlias
  | "saveopts" => runOnce cmd (finalizeWith cmd (do let _ ← configTarget cmd)) runSaveopts
  | "setopt" => runOnce cmd finalizeSetopt runSetopt
  | "sdist" => runOnce cmd finalizeSdist runSdist
  | "bdist_egg" => runOnce cmd finalizeBdistEgg runBdistEgg
  | "bdist_wheel" => runOnce cmd finalizeBdistWheel runBdistWheel
  | "install_lib" => runOnce cmd (finalizeWith cmd finalizeInstall) (pure ())
  | "install_egg_info" =>
    runOnce cmd (finalizeWith cmd (do finalizeWith "install_lib" finalizeInstall; finalizeEggInfo))
      (do
        let dir := ((← optionsOf cmd).text? "install_dir").getD sitePackages
        installMetadata dir)
  | "install_scripts" =>
    runOnce cmd (finalizeWith cmd finalizeInstall) (do
      let dir := ((← optionsOf cmd).text? "install_dir").getD scriptsDirectory
      installScripts (some dir))
  | "install" => do
    match (← optionsOf cmd).text? "root" with
    | some root =>
      let skip := (← optionsOf cmd).isSet "skip_build"
      installAll (changeRoot root sitePackages) (some (changeRoot root scriptsDirectory)) skip
    | none => runOnce cmd finalizeInstall (pure ())
  | _ => runOnce cmd (finalizeWith cmd (pure ())) (pure ())

def Plan.execute (p : Plan) : Except Fault Outcome :=
  let (r, s) := ((p.commands.forM runCommand).run).run { plan := p }
  match r with
  | .ok () => .ok { stdout := s.stdout, ending := .returned }
  | .error (.stop m) => .ok { stdout := s.stdout, ending := .stopped m }
  | .error (.fault f) => .error f

end AdocLint.Package
