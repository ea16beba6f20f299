/-! Binary64 numbers read exactly through their bits, as a sign and `m · 2 ^ q`; reading a ratio or
a decimal rounds to the nearest value, a tie to even `m`. -/

namespace AdocLint.Binary64

structure Exact where
  m : Nat
  q : Int
  narrowBelow : Bool
  deriving Repr, Inhabited

inductive Kind where
  | nan
  | infinite (negative : Bool)
  | finite (negative : Bool) (x : Exact)
  deriving Repr, Inhabited

def kind (x : Float) : Kind :=
  let b := x.toBits
  let negative := b >>> 63 == 1
  let e := ((b >>> 52) &&& 0x7FF).toNat
  let f := (b &&& 0xFFFFFFFFFFFFF).toNat
  if e == 0x7FF then (if f == 0 then .infinite negative else .nan)
  else if e == 0 then .finite negative ⟨f, -1074, false⟩
  else .finite negative ⟨Nat.pow 2 52 + f, (e : Int) - 1075, f == 0 && e > 1⟩

def isNaN (x : Float) : Bool :=
  match kind x with
  | .nan => true
  | _ => false

def signBit (x : Float) : Bool := x.toBits >>> 63 == 1

def withSign (negative : Bool) (bits : UInt64) : Float :=
  Float.ofBits (if negative then bits ||| (1 <<< (63 : UInt64)) else bits)

def infinity (negative : Bool) : Float := withSign negative 0x7FF0000000000000

def zero (negative : Bool) : Float := withSign negative 0

def powLe (k : Int) (num den : Nat) : Bool :=
  if 0 ≤ k then den * Nat.pow 2 k.toNat ≤ num else den ≤ num * Nat.pow 2 (-k).toNat

def floorLog2 (num den : Nat) : Int :=
  let k : Int := (num.log2 : Int) - den.log2
  if powLe k num den then k else k - 1

def roundHalfEven (num den : Nat) : Nat :=
  let q := num / den
  let r := num % den
  if 2 * r < den then q
  else if 2 * r > den then q + 1
  else if q % 2 == 0 then q else q + 1

def ofRatio (negative : Bool) (num den : Nat) : Float :=
  if num == 0 || den == 0 then zero negative
  else
    let q := max (floorLog2 num den - 52) (-1074)
    let (n, d) := if 0 ≤ q then (num, den * Nat.pow 2 q.toNat) else (num * Nat.pow 2 (-q).toNat, den)
    let m := roundHalfEven n d
    let (m, q) := if m == Nat.pow 2 53 then (Nat.pow 2 52, q + 1) else (m, q)
    if q > 971 then infinity negative
    else if m < Nat.pow 2 52 then withSign negative (UInt64.ofNat m)
    else withSign negative (UInt64.ofNat ((q + 1075).toNat * Nat.pow 2 52 + (m - Nat.pow 2 52)))

def digitCount (n : Nat) : Nat := (Nat.toDigits 10 n).length

def ofDecimal (negative : Bool) (n : Nat) (e : Int) : Float :=
  if n == 0 then zero negative
  else
    let size := e + digitCount n
    if size > 310 then infinity negative
    else if size < -330 then zero negative
    else if 0 ≤ e then ofRatio negative (n * Nat.pow 10 e.toNat) 1
    else ofRatio negative n (Nat.pow 10 (-e).toNat)

def ofInt (n : Int) : Float := ofDecimal (n < 0) n.natAbs 0

def compareScaled (a : Nat) (i : Int) (n : Nat) (j : Int) : Ordering :=
  compare (a * Nat.pow 10 i.toNat * Nat.pow 2 (-j).toNat) (n * Nat.pow 2 j.toNat * Nat.pow 10 (-i).toNat)

def compareInt (k : Int) (negative : Bool) (x : Exact) : Ordering :=
  let mag := compareScaled k.natAbs 0 x.m x.q
  if k < 0 then (if negative then mag.swap else .lt)
  else if negative then (if k == 0 && x.m == 0 then .eq else .gt)
  else mag

def equalsInt (k : Int) (x : Float) : Bool :=
  match kind x with
  | .finite negative e => compareInt k negative e == .eq
  | _ => false

end AdocLint.Binary64
