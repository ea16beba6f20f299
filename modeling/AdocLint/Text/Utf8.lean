/-! Strict UTF-8 decoding, which says where and why it stops. -/

namespace AdocLint.Text

inductive Utf8Reason where
  | invalidStart
  | invalidContinuation
  | unexpectedEnd
  deriving DecidableEq, Repr, Inhabited

def Utf8Reason.text : Utf8Reason → String
  | .invalidStart => "invalid start byte"
  | .invalidContinuation => "invalid continuation byte"
  | .unexpectedEnd => "unexpected end of data"

structure Utf8Fault where
  position : Nat
  span : Nat
  byte : UInt8
  reason : Utf8Reason
  deriving Repr, Inhabited

def Utf8Fault.message (f : Utf8Fault) : String :=
  let hex := String.ofList (hexDigitsOf f.byte.toNat)
  if f.span ≤ 1 then
    s!"'utf-8' codec can't decode byte 0x{hex} in position {f.position}: {f.reason.text}"
  else
    let last := f.position + f.span - 1
    s!"'utf-8' codec can't decode bytes in position {f.position}-{last}: {f.reason.text}"
where
  hexDigitsOf (n : Nat) : List Char :=
    let ds := Nat.toDigits 16 n
    List.replicate (2 - ds.length) '0' ++ ds

def isContinuation (b : UInt8) : Bool := b &&& 0xC0 == 0x80

def secondRange (lead : UInt8) : UInt8 × UInt8 :=
  if lead == 0xE0 then (0xA0, 0xBF)
  else if lead == 0xED then (0x80, 0x9F)
  else if lead == 0xF0 then (0x90, 0xBF)
  else if lead == 0xF4 then (0x80, 0x8F)
  else (0x80, 0xBF)

def sequenceLength (lead : UInt8) : Option Nat :=
  if lead < 0x80 then some 1
  else if lead < 0xC2 then none
  else if lead < 0xE0 then some 2
  else if lead < 0xF0 then some 3
  else if lead < 0xF5 then some 4
  else none

def codePoint (bs : List UInt8) : Nat :=
  match bs with
  | [a] => a.toNat
  | [a, b] => (a.toNat &&& 0x1F) * 0x40 + (b.toNat &&& 0x3F)
  | [a, b, c] => ((a.toNat &&& 0x0F) * 0x40 + (b.toNat &&& 0x3F)) * 0x40 + (c.toNat &&& 0x3F)
  | [a, b, c, d] =>
    (((a.toNat &&& 0x07) * 0x40 + (b.toNat &&& 0x3F)) * 0x40 + (c.toNat &&& 0x3F)) * 0x40 +
      (d.toNat &&& 0x3F)
  | _ => 0

def validTail (lead : UInt8) (tail : List UInt8) : Nat :=
  match tail with
  | [] => 0
  | b :: rest =>
    let (lo, hi) := secondRange lead
    if lo ≤ b && b ≤ hi then 1 + (rest.takeWhile isContinuation).length else 0

def decodeFrom (pos : Nat) (acc : List Char) : List UInt8 → Except Utf8Fault (List Char)
  | [] => .ok acc.reverse
  | b :: rest =>
    match sequenceLength b with
    | none => .error ⟨pos, 1, b, .invalidStart⟩
    | some 1 => decodeFrom (pos + 1) (Char.ofNat b.toNat :: acc) rest
    | some n =>
      let good := min (validTail b (rest.take (n - 1))) (n - 1)
      if good == n - 1 then
        decodeFrom (pos + n) (Char.ofNat (codePoint (b :: rest.take (n - 1))) :: acc)
          (rest.drop (n - 1))
      else if good == rest.length then .error ⟨pos, good + 1, b, .unexpectedEnd⟩
      else .error ⟨pos, good + 1, b, .invalidContinuation⟩
termination_by bs => bs.length
decreasing_by all_goals simp only [List.length_drop, List.length_cons]; omega

def decodeUtf8 (bytes : ByteArray) : Except Utf8Fault String :=
  (decodeFrom 0 [] bytes.toList).map String.ofList

end AdocLint.Text
