import AdocLint.Text.Blank

/-! Versions of releases, read by the grammar of versions with backtracking, and their normal form.
-/

namespace AdocLint.Package

inductive LabelPart where
  | number (n : Nat)
  | word (w : String)
  deriving DecidableEq, Repr

structure Version where
  epoch : Nat
  release : List Nat
  pre : Option (String × Nat)
  post : Option Nat
  dev : Option Nat
  label : Option (List LabelPart)
  deriving Repr

def Version.render (v : Version) : String :=
  (if v.epoch != 0 then toString v.epoch ++ "!" else "") ++
    ".".intercalate (v.release.map toString) ++
    (match v.pre with
      | some (l, n) => l ++ toString n
      | none => "") ++
    (match v.post with
      | some n => ".post" ++ toString n
      | none => "") ++
    (match v.dev with
      | some n => ".dev" ++ toString n
      | none => "") ++
    (match v.label with
      | some parts => "+" ++ ".".intercalate (parts.map fun
          | .number n => toString n
          | .word w => w)
      | none => "")

def isDecimal (c : Char) : Bool := '0' ≤ c && c ≤ '9'

def isSeparator (c : Char) : Bool := c == '-' || c == '_' || c == '.'

def digitsValue (ds : List Char) : Nat :=
  ds.foldl (fun n d => 10 * n + (d.toNat - '0'.toNat)) 0

def readNumber (cs : List Char) : Option (Nat × List Char) :=
  let ds := cs.takeWhile isDecimal
  if ds.isEmpty then none else some (digitsValue ds, cs.drop ds.length)

def numberOrNone (cs : List Char) : List (Option Nat × List Char) :=
  match readNumber cs with
  | some (n, rest) => [(some n, rest), (none, cs)]
  | none => [(none, cs)]

def separatorOrNone (cs : List Char) : List (List Char) :=
  match cs with
  | c :: rest => if isSeparator c then [rest, cs] else [cs]
  | [] => [cs]

def afterWord (w : String) (cs : List Char) : Option (List Char) :=
  let n := w.length
  if (cs.take n).map Char.toLower == w.toList then some (cs.drop n) else none

def oneOf (words : List (String × String)) (cs : List Char) : List (String × List Char) :=
  words.filterMap fun (w, meant) => (afterWord w cs).map (meant, ·)

def letteredPart (words : List (String × String)) (cs : List Char) :
    List ((String × Nat) × List Char) :=
  (separatorOrNone cs).flatMap fun r1 =>
    (oneOf words r1).flatMap fun (l, r2) =>
      (separatorOrNone r2).flatMap fun r3 =>
        (numberOrNone r3).map fun (n, r4) => ((l, n.getD 0), r4)

def preWords : List (String × String) :=
  [("a", "a"), ("b", "b"), ("c", "rc"), ("rc", "rc"), ("alpha", "a"), ("beta", "b"),
    ("pre", "rc"), ("preview", "rc")]

def preReads (cs : List Char) : List (Option (String × Nat) × List Char) :=
  ((letteredPart preWords cs).map fun (p, r) => (some p, r)) ++ [(none, cs)]

def postReads (cs : List Char) : List (Option Nat × List Char) :=
  (match cs with
    | '-' :: rest =>
      match readNumber rest with
      | some (n, r) => [(some n, r)]
      | none => []
    | _ => []) ++
  ((letteredPart [("post", "post"), ("rev", "post"), ("r", "post")] cs).map fun ((_, n), r) =>
    (some n, r)) ++ [(none, cs)]

def devReads (cs : List Char) : List (Option Nat × List Char) :=
  ((letteredPart [("dev", "dev")] cs).map fun ((_, n), r) => (some n, r)) ++ [(none, cs)]

def isLabelChar (c : Char) : Bool := isDecimal c || ('a' ≤ c.toLower && c.toLower ≤ 'z')

def labelParts (cs : List Char) : List String × List Char :=
  let first := cs.takeWhile isLabelChar
  let rec more : Nat → List Char → List String × List Char
    | 0, rest => ([], rest)
    | fuel + 1, rest =>
      match rest with
      | c :: after =>
        let part := after.takeWhile isLabelChar
        if isSeparator c && !part.isEmpty then
          let (ps, r) := more fuel (after.drop part.length)
          (String.ofList part :: ps, r)
        else ([], rest)
      | [] => ([], rest)
  let (ps, rest) := more cs.length (cs.drop first.length)
  (String.ofList first :: ps, rest)

def LabelPart.ofText (s : String) : LabelPart :=
  if s.toList.all isDecimal then .number (digitsValue s.toList)
  else .word (String.ofList (s.toList.map Char.toLower))

def labelReads (cs : List Char) : List (Option (List LabelPart) × List Char) :=
  (match cs with
    | '+' :: rest =>
      if rest.head?.any isLabelChar then
        let (ps, r) := labelParts rest
        [(some (ps.map LabelPart.ofText), r)]
      else []
    | _ => []) ++ [(none, cs)]

def releaseNumbers (cs : List Char) : Option (List Nat × List Char) :=
  let rec more : Nat → List Char → List Nat × List Char
    | 0, rest => ([], rest)
    | fuel + 1, rest =>
      match rest with
      | '.' :: after =>
        match readNumber after with
        | some (n, r) =>
          let (ns, r') := more fuel r
          (n :: ns, r')
        | none => ([], rest)
      | _ => ([], rest)
  (readNumber cs).map fun (n, rest) =>
    let (ns, r) := more rest.length rest
    (n :: ns, r)

def epochReads (cs : List Char) : List (Nat × List Char) :=
  (match readNumber cs with
    | some (n, '!' :: rest) => [(n, rest)]
    | _ => []) ++ [(0, cs)]

def Version.read? (s : String) : Option Version :=
  let cs := s.toList.dropWhile Text.isBlank
  let starts := match cs with
    | c :: rest => if c.toLower == 'v' then [rest, cs] else [cs]
    | [] => [cs]
  let readings := starts.flatMap fun r0 =>
    (epochReads r0).flatMap fun (epoch, r1) =>
      match releaseNumbers r1 with
      | none => []
      | some (release, r2) =>
        (preReads r2).flatMap fun (pre, r3) =>
          (postReads r3).flatMap fun (post, r4) =>
            (devReads r4).flatMap fun (dev, r5) =>
              (labelReads r5).filterMap fun (label, r6) =>
                if r6.all Text.isBlank then some { epoch, release, pre, post, dev, label }
                else none
  readings.head?

def safeText (s : String) : String :=
  let keep (c : Char) : Bool := isDecimal c || ('a' ≤ c && c ≤ 'z') || ('A' ≤ c && c ≤ 'Z') ||
    c == '.'
  let cs := s.toList.map fun c => if c == ' ' then '.' else c
  let (out, _) := cs.foldl (fun (acc : List Char × Bool) c =>
    let (out, inRun) := acc
    if keep c then (c :: out, false)
    else if inRun then (out, true)
    else ('-' :: out, true)) ([], false)
  String.ofList out.reverse

def safeVersion (s : String) : String :=
  match Version.read? s with
  | some v => v.render
  | none => safeText s

def taggedVersion (version tags : String) : String :=
  let safeTags := String.ofList ((safeVersion ("0" ++ tags)).toList.drop 1)
  let tagged := if !tags.isEmpty && (version.endsWith tags || version.endsWith safeTags) then
      version
    else version ++ tags
  safeVersion tagged

end AdocLint.Package
