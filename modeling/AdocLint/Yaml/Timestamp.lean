/-! Timestamps of YAML text: a date, optionally with a time and a zone. -/

namespace AdocLint.Yaml

inductive Zone where
  | utc
  | offset (negative : Bool) (hours : Nat) (minutes : Option Nat)
  deriving Repr, Inhabited

structure Clock where
  hour : Nat
  minute : Nat
  second : Nat
  fraction : Option (List Char)
  zone : Option Zone
  deriving Repr, Inhabited

structure Stamp where
  year : Nat
  month : Nat
  day : Nat
  clock : Option Clock
  deriving Repr, Inhabited

def isAsciiDigit (c : Char) : Bool := '0' ≤ c && c ≤ '9'

def asciiValue (ds : List Char) : Nat := ds.foldl (fun acc c => acc * 10 + (c.toNat - 48)) 0

def readDigits (most : Nat) (cs : List Char) : Option (Nat × Nat × List Char) :=
  let ds := (cs.takeWhile isAsciiDigit).take most
  if ds.isEmpty then none else some (asciiValue ds, ds.length, cs.drop ds.length)

def readZone : List Char → Option Zone
  | ['Z'] => some .utc
  | s :: rest =>
    if s == '-' || s == '+' then do
      let (h, _, rest) ← readDigits 2 rest
      match rest with
      | [] => some (.offset (s == '-') h none)
      | ':' :: rest =>
        let (m, n, rest) ← readDigits 2 rest
        if n == 2 && rest.isEmpty then some (.offset (s == '-') h (some m)) else none
      | _ => none
    else none
  | [] => none

def readClock (cs : List Char) : Option Clock := do
  let (hour, _, rest) ← readDigits 2 cs
  let rest ← match rest with
    | ':' :: r => some r
    | _ => none
  let (minute, n, rest) ← readDigits 2 rest
  if n != 2 then none
  let rest ← match rest with
    | ':' :: r => some r
    | _ => none
  let (second, n, rest) ← readDigits 2 rest
  if n != 2 then none
  let (fraction, rest) := match rest with
    | '.' :: r => (some (r.takeWhile isAsciiDigit), r.dropWhile isAsciiDigit)
    | r => (none, r)
  if rest.isEmpty then return ⟨hour, minute, second, fraction, none⟩
  let zone ← readZone (rest.dropWhile fun c => c == ' ' || c == '\t')
  return ⟨hour, minute, second, fraction, some zone⟩

def readStampExactly (strict : Bool) (cs : List Char) : Option Stamp := do
  let y := cs.take 4
  if y.length != 4 || !y.all isAsciiDigit then none
  let rest ← match cs.drop 4 with
    | '-' :: r => some r
    | _ => none
  let (month, mn, rest) ← readDigits 2 rest
  let rest ← match rest with
    | '-' :: r => some r
    | _ => none
  let (day, dn, rest) ← readDigits 2 rest
  match rest with
  | [] => if strict && (mn != 2 || dn != 2) then none else some ⟨asciiValue y, month, day, none⟩
  | c :: r =>
    let afterSep ← if c == 'T' || c == 't' then some r
      else if c == ' ' || c == '\t' then some (r.dropWhile fun c => c == ' ' || c == '\t')
      else none
    let clock ← readClock afterSep
    return ⟨asciiValue y, month, day, some clock⟩

def readStamp (strict : Bool) (cs : List Char) : Option Stamp :=
  match readStampExactly strict cs with
  | some st => some st
  | none => if cs.getLast? == some '\n' then readStampExactly strict cs.dropLast else none

end AdocLint.Yaml
