import AdocLint.Binary64

/-! The shortest decimal that reads back as a finite binary64 value, and of two such the nearer,
found by trying grids of one to seventeen digits. -/

namespace AdocLint.Binary64

def readsBack (x : Exact) (d : Nat) (i : Int) : Bool :=
  let lo := if x.narrowBelow then 4 * x.m - 1 else 4 * x.m - 2
  let hi := 4 * x.m + 2
  let incl := x.m % 2 == 0
  let cl := compareScaled d i lo (x.q - 2)
  let ch := compareScaled d i hi (x.q - 2)
  (cl == .gt || (incl && cl == .eq)) && (ch == .lt || (incl && ch == .eq))

def floorLog10 (x : Exact) : Int :=
  let est : Int := ((x.m.log2 : Int) + x.q) * 30103 / 100000
  let atLeast (k : Int) : Bool := compareScaled 1 k x.m x.q != .gt
  let k := [est - 2, est - 1, est, est + 1, est + 2].foldl
    (fun acc k => if atLeast k then k else acc) (est - 3)
  k

def floorOnGrid (x : Exact) (g : Int) : Nat :=
  (x.m * Nat.pow 2 x.q.toNat * Nat.pow 10 (-g).toNat) / (Nat.pow 2 (-x.q).toNat * Nat.pow 10 g.toNat)

def onGrid (x : Exact) (g : Int) : Option Nat :=
  let lo := floorOnGrid x g
  let hi := lo + 1
  match readsBack x lo g, readsBack x hi g with
  | false, false => none
  | true, false => some lo
  | false, true => some hi
  | true, true =>
    match compareScaled (2 * lo + 1) g x.m (x.q + 1) with
    | .gt => some lo
    | .lt => some hi
    | .eq => some (if lo % 2 == 0 then lo else hi)

def stripZeros (d : Nat) (e : Int) : Nat → Nat × Int
  | 0 => (d, e)
  | fuel + 1 => if d != 0 && d % 10 == 0 then stripZeros (d / 10) (e + 1) fuel else (d, e)

def shortest (x : Exact) : Nat × Int :=
  let lead := floorLog10 x
  let found := (List.range 17).findSome? fun (n : Nat) =>
    (onGrid x (lead - n)).map fun d => (d, lead - n)
  let (d, e) := match found with
    | some r => r
    | none => if 0 ≤ x.q then (x.m * Nat.pow 2 x.q.toNat, 0) else (x.m * Nat.pow 5 (-x.q).toNat, x.q)
  stripZeros d e (digitCount d + 1)

end AdocLint.Binary64
