import AdocLint.Cli.Run
import AdocLint.Rule.Images

/-! The program: the command line over the file system, with every file the run needs read before
it starts. -/

namespace AdocLint.Program

def readFault : IO.Error → Cli.ReadFault
  | .inappropriateType _ code _ =>
    if code == 21 then .directory else if code == 20 then .notDirectory else .missing
  | _ => .missing

def readPath (path : String) : IO (Except Cli.ReadFault ByteArray) := do
  try
    return .ok (← IO.FS.readBinFile path)
  catch e =>
    return .error (readFault e)

def argumentPaths (args : List String) : List String :=
  (args.flatMap fun a => [a, Cli.normalPath a]).eraseDups

def imagePaths (bytes : ByteArray) : List String :=
  match Cli.readText bytes with
  | .ok text => (Text.lines text).flatMap Images.localPaths
  | .error _ => []

abbrev Reads := List (String × Except Cli.ReadFault ByteArray)

def readAll (acc : Reads) : List String → IO Reads
  | [] => return acc
  | p :: ps => do readAll (acc ++ [(p, ← readPath p)]) ps

def diskOf (reads : Reads) : Cli.Disk where
  read p := match reads.find? (·.1 == p) with
    | some (_, r) => r
    | none => .error .missing
  isFile p := match reads.find? (·.1 == p) with
    | some (_, .ok _) => true
    | _ => false

def gather (args : List String) : IO Reads := do
  let first ← readAll [] (argumentPaths args)
  let images := (first.flatMap fun (_, r) => match r with
    | .ok bytes => imagePaths bytes
    | .error _ => []).eraseDups
  readAll first (images.filter fun p => !(first.any (·.1 == p)))

end AdocLint.Program

open AdocLint in
def main (args : List String) : IO UInt32 := do
  let reads ← Program.gather args
  match Cli.run (Program.diskOf reads) args with
  | .ok outcome =>
    IO.print outcome.stdout
    IO.eprint outcome.stderr
    return outcome.exitCode.toUInt32
  | .error f =>
    IO.eprintln f.message
    return 1
