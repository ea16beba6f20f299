import AdocLint.Text.Printable

/-! The files a command line can see, by relative paths under one directory; a path is followed part
by part, and one that climbs out names nothing. -/

namespace AdocLint.Cli

inductive ReadFault where
  | missing
  | directory
  | notDirectory
  | nameTooLong
  | nullByte
  deriving DecidableEq, Repr, Inhabited

def ReadFault.message (f : ReadFault) (path : String) : String :=
  match f with
  | .missing => "[Errno 2] No such file or directory: " ++ Text.quote path
  | .directory => "[Errno 21] Is a directory: " ++ Text.quote path
  | .notDirectory => "[Errno 20] Not a directory: " ++ Text.quote path
  | .nameTooLong => "[Errno 36] File name too long: " ++ Text.quote path
  | .nullByte => "embedded null byte"

structure Workspace where
  files : List (List String × ByteArray) := []
  deriving Inhabited

def pathParts (path : String) : List String :=
  (path.splitOn "/").filter fun p => !p.isEmpty && p != "."

namespace Workspace

def ofFiles (fs : List (String × ByteArray)) : Workspace :=
  ⟨fs.map fun (p, b) => (pathParts p, b)⟩

def at? (w : Workspace) (parts : List String) : Option (Option ByteArray) :=
  match w.files.find? (·.1 == parts) with
  | some (_, b) => some (some b)
  | none =>
    if w.files.any fun (q, _) => parts.length < q.length && parts.isPrefixOf q then some none
    else none

def nameLimit : Nat := 255

def pathLimit : Nat := 4096

def walk (w : Workspace) (here : List String) : List String → Except ReadFault ByteArray
  | [] => .error .directory
  | p :: rest =>
    if p.utf8ByteSize > nameLimit then .error .nameTooLong
    else if p.isEmpty || p == "." then w.walk here rest
    else if p == ".." then
      match here with
      | [] => .error .missing
      | _ => w.walk here.dropLast rest
    else
      let there := here ++ [p]
      match w.at? there with
      | some (some b) => if rest.isEmpty then .ok b else .error .notDirectory
      | some none => w.walk there rest
      | none => .error .missing

def read (w : Workspace) (path : String) : Except ReadFault ByteArray :=
  if path.toList.contains '\x00' then .error .nullByte
  else if path.utf8ByteSize ≥ pathLimit then .error .nameTooLong
  else if path.isEmpty then .error .missing
  else if path.startsWith "/" then
    match (path.splitOn "/").find? (!·.isEmpty) with
    | some first => if first.utf8ByteSize > nameLimit then .error .nameTooLong else .error .missing
    | none => .error .directory
  else w.walk [] (path.splitOn "/")

def isFile (w : Workspace) (path : String) : Bool :=
  match w.read path with
  | .ok _ => true
  | .error _ => false

end Workspace

def normalPath (path : String) : String :=
  let parts := (path.splitOn "/").filter fun p => !p.isEmpty && p != "."
  let body := "/".intercalate parts
  if path.startsWith "//" && !path.startsWith "///" then "//" ++ body
  else if path.startsWith "/" then "/" ++ body
  else if body.isEmpty then "." else body

end AdocLint.Cli
