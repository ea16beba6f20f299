import AdocLint.Text.Blank
import AdocLint.Text.Digit
import AdocLint.Binary64

/-! Whole numbers in bases 2 to 16 and decimal numbers, read from text after blanks and digits of
any script are put in a plain form. -/

namespace AdocLint.Text

def plainChar (c : Char) : Char :=
  if isBlank c then ' '
  else match digitValue? c with
    | some d => Char.ofNat (48 + d)
    | none => if c.toNat < 128 then c else '?'

def digitOf (c : Char) : Nat :=
  if '0' ≤ c && c ≤ '9' then c.toNat - 48
  else if 'a' ≤ c && c ≤ 'z' then c.toNat - 87
  else if 'A' ≤ c && c ≤ 'Z' then c.toNat - 55
  else 36

inductive IntFault where
  | invalid
  | tooManyDigits (count : Nat)
  deriving Repr, Inhabited, DecidableEq

def digitLimit : Nat := 4300

def baseDigits (base : Nat) : List Char → Option (List Nat × List Char)
  | [] => some ([], [])
  | '_' :: c :: rest =>
    if digitOf c < base then (baseDigits base (c :: rest)).map fun (ds, r) => (ds, r)
    else none
  | ['_'] => none
  | c :: rest =>
    if digitOf c < base then (baseDigits base rest).map fun (ds, r) => (digitOf c :: ds, r)
    else some ([], c :: rest)

def digitsValue (base : Nat) (ds : List Nat) : Nat :=
  ds.foldl (fun acc d => acc * base + d) 0

def dropPrefix (base : Nat) : List Char → List Char
  | '0' :: p :: rest =>
    let hit := (base == 16 && (p == 'x' || p == 'X')) || (base == 8 && (p == 'o' || p == 'O')) ||
      (base == 2 && (p == 'b' || p == 'B'))
    if hit then (match rest with
      | '_' :: r => r
      | r => r)
    else '0' :: p :: rest
  | cs => cs

def readInt (base : Nat) (s : List Char) : Except IntFault Int :=
  let cs := (s.map plainChar).dropWhile (· == ' ')
  let (negative, cs) := match cs with
    | '-' :: r => (true, r)
    | '+' :: r => (false, r)
    | r => (false, r)
  let cs := dropPrefix base cs
  match cs with
  | '_' :: _ => .error .invalid
  | _ =>
    match baseDigits base cs with
    | none => .error .invalid
    | some (ds, rest) =>
      if ds.isEmpty || !(rest.all (· == ' ')) then .error .invalid
      else if base == 10 && ds.length > digitLimit then .error (.tooManyDigits ds.length)
      else
        let v : Int := digitsValue base ds
        .ok (if negative then -v else v)

def asciiDigits (cs : List Char) : Nat × Nat × List Char :=
  let ds := cs.takeWhile fun c => '0' ≤ c && c ≤ '9'
  (digitsValue 10 (ds.map digitOf), ds.length, cs.drop ds.length)

def readExponent : List Char → Int × List Char
  | e :: rest =>
    if e == 'e' || e == 'E' then
      let (negative, body) := match rest with
        | '-' :: r => (true, r)
        | '+' :: r => (false, r)
        | r => (false, r)
      let (v, n, after) := asciiDigits body
      if n == 0 then (0, e :: rest) else (if negative then -(v : Int) else v, after)
    else (0, e :: rest)
  | [] => (0, [])

def readFloat (s : List Char) : Option Float :=
  let cs := ((s.map plainChar).dropWhile (· == ' ')).reverse.dropWhile (· == ' ') |>.reverse
  let (negative, body) := match cs with
    | '-' :: r => (true, r)
    | '+' :: r => (false, r)
    | r => (false, r)
  let word := String.ofList (body.map Char.toLower)
  if word == "inf" || word == "infinity" then some (Binary64.infinity negative)
  else if word == "nan" then some (Float.ofBits 0x7FF8000000000000)
  else
    let (whole, wholeCount, afterWhole) := asciiDigits body
    let (frac, fracCount, afterFrac) := match afterWhole with
      | '.' :: r => asciiDigits r
      | r => (0, 0, r)
    if wholeCount + fracCount == 0 then none
    else
      let (e, rest) := readExponent afterFrac
      if !rest.isEmpty then none
      else some (Binary64.ofDecimal negative (whole * Nat.pow 10 fracCount + frac) (e - fracCount))

end AdocLint.Text
