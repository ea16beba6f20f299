import AdocLint.Fault
import AdocLint.Package.Readme

/-! The directory in which the distribution script runs, as far as its commands can see it, and its
configuration files. -/

namespace AdocLint.Package

inductive Entry where
  | directory
  | projectFile
  | readme
  | settings (sections : List (String × List String))
  | file
  deriving DecidableEq, Repr, Inhabited

structure WorkingTree where
  entries : List (String × Entry)
  deriving Inhabited

def WorkingTree.initial : WorkingTree :=
  ⟨[("pyproject.toml", .projectFile), ("README.adoc", .readme)]⟩

def normPath (p : String) : String :=
  if p.isEmpty then "."
  else
    let lead : Nat :=
      if p.startsWith "//" && !p.startsWith "///" then 2 else if p.startsWith "/" then 1 else 0
    let parts := (p.splitOn "/").foldl (fun (acc : List String) part =>
      if part == "" || part == "." then acc
      else if part != ".." || (lead == 0 && acc.isEmpty) || acc.head? == some ".." then part :: acc
      else acc.drop 1) []
    let r := String.ofList (List.replicate lead '/') ++ "/".intercalate parts.reverse
    if r.isEmpty then "." else r

def joinPath (dir p : String) : String :=
  if p.startsWith "/" then p
  else if dir.isEmpty || dir.endsWith "/" then dir ++ p
  else dir ++ "/" ++ p

def ancestors (n : String) : List String :=
  let parts := n.splitOn "/"
  (List.range (parts.length - 1)).filterMap fun k =>
    let a := "/".intercalate (parts.take (k + 1))
    if a.isEmpty then none else some a

def systemDirectories : List String :=
  ["/", "/tmp", "/root", "/home", "/usr", "/usr/local", "/usr/bin", "/usr/lib", "/etc", "/var",
    "/opt", "/bin", "/lib", "/dev", "/proc", "/sys", "/srv", "/mnt", "/run", "/sbin", "/boot"]

def WorkingTree.entry? (t : WorkingTree) (p : String) : Option Entry :=
  t.entries.lookup (normPath p)

def WorkingTree.isDirectory (t : WorkingTree) (p : String) : Bool :=
  let n := normPath p
  !p.isEmpty && (n == "." || (n.splitOn "/").all (· == "..") || systemDirectories.contains n ||
    t.entry? p == some .directory)

def WorkingTree.pathExists (t : WorkingTree) (p : String) : Bool :=
  t.isDirectory p || (!p.isEmpty && (t.entry? p).isSome)

def WorkingTree.isFile (t : WorkingTree) (p : String) : Bool :=
  t.pathExists p && !t.isDirectory p

def splitPath (p : String) : String × String :=
  let cs := p.toList
  let tail := (cs.reverse.takeWhile (· != '/')).reverse
  let head := cs.take (cs.length - tail.length)
  let trimmed := (head.reverse.dropWhile (· == '/')).reverse
  (String.ofList (if trimmed.isEmpty then head else trimmed), String.ofList tail)

def dirName (p : String) : String := (splitPath p).1

def baseName (p : String) : String := (splitPath p).2

def WorkingTree.addDirectory (t : WorkingTree) (p : String) : WorkingTree :=
  ⟨t.entries.filter (·.1 != normPath p) ++ [(normPath p, .directory)]⟩

def WorkingTree.addDirectories (t : WorkingTree) (p : String) : WorkingTree :=
  let n := normPath p
  ((ancestors n) ++ [n]).foldl (fun t d => if t.isDirectory d then t else t.addDirectory d) t

def WorkingTree.put (t : WorkingTree) (p : String) (e : Entry) : WorkingTree :=
  ⟨t.entries.filter (·.1 != normPath p) ++ [(normPath p, e)]⟩

def WorkingTree.under (t : WorkingTree) (dir : String) : List (String × Entry) :=
  let n := normPath dir
  if n == "." then t.entries
  else t.entries.filterMap fun (q, e) =>
    if q.startsWith (n ++ "/") then some (String.ofList (q.toList.drop (n.length + 1)), e)
    else none

def WorkingTree.removeTree (t : WorkingTree) (p : String) : WorkingTree :=
  let n := normPath p
  ⟨t.entries.filter fun (q, _) => !(n == "." || q == n || q.startsWith (n ++ "/"))⟩

def projectStrayLines : List (Nat × String) :=
  [(13, "]\n"), (27, "]\n"), (30, "]\n"), (39, "]\n")]

def WorkingTree.readSettings (t : WorkingTree) (p : String) :
    Except Fault (List (String × List String)) :=
  match t.entry? p with
  | some .projectFile => .error (.unparsableLines p projectStrayLines)
  | some .readme => .error (.noSectionHeader p (readmeLines.headD "" ++ "\n"))
  | some (.settings ss) => .ok ss
  | _ => .ok []

def WorkingTree.write (t : WorkingTree) (p : String) (e : Entry) : Except String WorkingTree :=
  let n := normPath p
  let parents := ancestors n
  if p.isEmpty then .error "[Errno 2] No such file or directory: ''"
  else if t.isDirectory p then .error ("[Errno 21] Is a directory: " ++ Text.quote p)
  else if parents.any t.isFile then .error ("[Errno 20] Not a directory: " ++ Text.quote p)
  else if parents.getLast?.all t.isDirectory then .ok (t.put p e)
  else .error ("[Errno 2] No such file or directory: " ++ Text.quote p)

def WorkingTree.writeSettings (t : WorkingTree) (p : String)
    (sections : List (String × List String)) : Except String WorkingTree :=
  t.write p (.settings sections)

end AdocLint.Package
