import AdocLint.Value
import AdocLint.Binary64.Shortest

/-! Literal forms of values, as error messages quote them. -/

namespace AdocLint

namespace Value

def decimalDigits (n : Nat) : List Char := Nat.toDigits 10 n

def decimalText (digits : Nat) (e : Int) : String :=
  let ds := decimalDigits digits
  let k : Int := ds.length
  let lead := k - 1 + e
  let body : List Char :=
    if -4 ≤ lead && lead < 16 then
      if 0 ≤ e then ds ++ List.replicate e.toNat '0' ++ ['.', '0']
      else if -e < k then ds.take (k + e).toNat ++ '.' :: ds.drop (k + e).toNat
      else '0' :: '.' :: List.replicate (-e - k).toNat '0' ++ ds
    else
      let frac := ds.drop 1
      let expDigits := decimalDigits lead.natAbs
      ds.take 1 ++ (if frac.isEmpty then [] else '.' :: frac) ++ 'e' ::
        (if lead < 0 then '-' else '+') :: List.replicate (2 - expDigits.length) '0' ++ expDigits
  String.ofList body

def floatText (x : Float) : String :=
  match Binary64.kind x with
  | .nan => "nan"
  | .infinite negative => if negative then "-inf" else "inf"
  | .finite negative e =>
    let sign := if negative then "-" else ""
    if e.m == 0 then sign ++ "0.0"
    else
      let (d, ex) := Binary64.shortest e
      sign ++ decimalText d ex

def writableInt (n : Int) : Bool :=
  n.natAbs.log2 < 14280 || n.natAbs < Nat.pow 10 4300

def byteText (q : Char) (b : UInt8) : List Char :=
  let n := b.toNat
  if n == 0x5C then ['\\', '\\']
  else if n == q.toNat then ['\\', q]
  else if n == 9 then ['\\', 't']
  else if n == 10 then ['\\', 'n']
  else if n == 13 then ['\\', 'r']
  else if 0x20 ≤ n && n < 0x7F then [Char.ofNat n]
  else '\\' :: 'x' :: Text.hexDigits 2 n

def bytesLiteral (bs : List UInt8) : String :=
  let q := if bs.contains 0x27 && !bs.contains 0x22 then '"' else '\''
  String.ofList ('b' :: q :: bs.flatMap (byteText q) ++ [q])

mutual
def size : Value → Nat
  | .list xs => sizeItems xs + 1
  | .tuple xs => sizeItems xs + 1
  | .set xs => sizeItems xs + 1
  | .map es => sizeEntries es + 1
  | _ => 1

def sizeItems : List Value → Nat
  | [] => 0
  | x :: xs => size x + sizeItems xs

def sizeEntries : List (Value × Value) → Nat
  | [] => 0
  | (k, v) :: es => size k + size v + sizeEntries es
end

def recursionText : Value → String
  | .list _ => "[...]"
  | .tuple _ => "(...)"
  | .set _ => "set(...)"
  | .map _ => "\x7b...\x7d"
  | _ => "..."

end Value

namespace Graph

def depthBound (g : Graph) (v : Value) : Nat :=
  let largest := g.store.foldl (fun acc w => max acc w.size) v.size
  (g.store.size + 1) * (largest + 1) + 1

def literalAt (g : Graph) : Nat → List Nat → Value → Option String
  | 0, _, _ => some "..."
  | fuel + 1, active, v =>
    match v with
    | .none => some "None"
    | .bool true => some "True"
    | .bool false => some "False"
    | .int n => if Value.writableInt n then some (toString n) else Option.none
    | .float x => some (Value.floatText x)
    | .str s => some (Text.quote s)
    | .codes cs => some (Text.quoteCodes cs)
    | .bytes bs => some (Value.bytesLiteral bs)
    | .date d => some d.literal
    | .moment t => some t.literal
    | .list xs => do
      let parts ← xs.mapM (literalAt g fuel active)
      return "[" ++ ", ".intercalate parts ++ "]"
    | .tuple xs => do
      let parts ← xs.mapM (literalAt g fuel active)
      return match parts with
        | [p] => "(" ++ p ++ ",)"
        | _ => "(" ++ ", ".intercalate parts ++ ")"
    | .set [] => some "set()"
    | .set xs => do
      let parts ← xs.mapM (literalAt g fuel active)
      return "\x7b" ++ ", ".intercalate parts ++ "\x7d"
    | .map es => do
      let parts ← es.mapM fun (k, w) => do
        return (← literalAt g fuel active k) ++ ": " ++ (← literalAt g fuel active w)
      return "\x7b" ++ ", ".intercalate parts ++ "\x7d"
    | .ref i =>
      let target := g.store.getD i .none
      if active.contains i then some target.recursionText
      else literalAt g fuel (i :: active) target

def literal? (g : Graph) (v : Value) : Option String := g.literalAt (g.depthBound v) [] v

end Graph

namespace Value

def literal? (v : Value) : Option String := v.toGraph.literal? v

def literal (v : Value) : String := (literal? v).getD "..."

def display : Value → String
  | .str s => s
  | .float x => floatText x
  | v => v.literal

end Value

end AdocLint
