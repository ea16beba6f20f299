import AdocLint.Value

/-! The order in which a set lists its members: the slots of its hash table. -/

namespace AdocLint.Value

def hashModulus : Nat := Nat.pow 2 61 - 1

def hashFix (h : Int) : Int := if h == -1 then -2 else h

def scaledHash (negative : Bool) (m : Nat) (q : Int) : Int :=
  let r : Nat := m * Nat.pow 2 (q % 61).toNat % hashModulus
  hashFix (if negative then -(r : Int) else r)

def stableHash? : Value → Option Int
  | .bool b => some (if b then 1 else 0)
  | .int n => some (scaledHash (n < 0) n.natAbs 0)
  | .float x =>
    match Binary64.kind x with
    | .nan => Option.none
    | .infinite negative => some (if negative then -314159 else 314159)
    | .finite negative e => some (scaledHash negative e.m e.q)
  | _ => Option.none

abbrev Slots := Array (Option (Value × UInt64))

def freeSlot (slots : Slots) (size : Nat) : Nat → Nat → UInt64 → Option Nat
  | 0, _, _ => Option.none
  | fuel + 1, i, p =>
    let window := if i + 9 ≤ size - 1 then List.range 10 else [0]
    match window.find? (fun j => (slots.getD (i + j) Option.none).isNone) with
    | some j => some (i + j)
    | Option.none =>
      let p := p >>> 5
      freeSlot slots size fuel ((i * 5 + 1 + p.toNat) % size) p

def place (slots : Slots) (v : Value) (h : UInt64) : Slots :=
  let size := slots.size
  match freeSlot slots size (size + 16) (h.toNat % size) h with
  | some k => slots.set! k (some (v, h))
  | Option.none => slots

def tableSize (least : Nat) : Nat :=
  let rec grow : Nat → Nat → Nat
    | 0, s => s
    | fuel + 1, s => if s ≤ least then grow fuel (2 * s) else s
  grow (least + 1) 8

def rebuild (slots : Slots) (least : Nat) : Slots :=
  slots.foldl (fun acc e => match e with
    | some (v, h) => place acc v h
    | Option.none => acc) (Array.replicate (tableSize least) Option.none)

def addSlot (slots : Slots) (count : Nat) (v : Value) (h : UInt64) : Slots × Nat :=
  let slots := place slots v h
  let count := count + 1
  if count * 5 < (slots.size - 1) * 3 then (slots, count)
  else (rebuild slots (if count > 50000 then count * 2 else count * 4), count)

def setOrder (members : List Value) : List Value :=
  match members.mapM fun v => (stableHash? v).map fun h => (v, (Int.toNat (h % Int.pow 2 64)).toUInt64) with
  | Option.none => members
  | some hashed =>
    let n := hashed.length
    let start : Slots := Array.replicate 8 Option.none
    let start := if n * 5 ≥ 7 * 3 then rebuild start (2 * n) else start
    let (slots, _) := hashed.foldl (fun (acc : Slots × Nat) (v, h) => addSlot acc.1 acc.2 v h)
      (start, 0)
    slots.toList.filterMap (·.map (·.1))

end AdocLint.Value
