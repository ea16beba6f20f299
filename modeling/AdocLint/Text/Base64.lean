/-! Lenient base64 decoding, as configuration files carry binary data. -/

namespace AdocLint.Text

inductive Base64Error where
  | strayCharacter (count : Nat)
  | incorrectPadding
  deriving Repr, DecidableEq

def Base64Error.message : Base64Error → String
  | .strayCharacter n =>
    s!"Invalid base64-encoded string: number of data characters ({n}) cannot be 1 more " ++
      "than a multiple of 4"
  | .incorrectPadding => "Incorrect padding"

def base64Value? (b : UInt8) : Option Nat :=
  let n := b.toNat
  if 65 ≤ n && n ≤ 90 then some (n - 65)
  else if 97 ≤ n && n ≤ 122 then some (n - 97 + 26)
  else if 48 ≤ n && n ≤ 57 then some (n - 48 + 52)
  else if n == 43 then some 62
  else if n == 47 then some 63
  else none

def base64Loop : List UInt8 → Nat → Nat → Nat → List UInt8 → Except Base64Error (List UInt8)
  | [], slot, _, _, out =>
    if slot == 0 then .ok out.reverse
    else if slot == 1 then .error (.strayCharacter (out.length / 3 * 4 + 1))
    else .error .incorrectPadding
  | b :: rest, slot, carry, pads, out =>
    if b == 61 then
      if slot ≥ 2 then
        if slot + (pads + 1) ≥ 4 then .ok out.reverse
        else base64Loop rest slot carry (pads + 1) out
      else base64Loop rest slot carry pads out
    else
      match base64Value? b with
      | none => base64Loop rest slot carry pads out
      | some d =>
        match slot with
        | 0 => base64Loop rest 1 d 0 out
        | 1 => base64Loop rest 2 (d % 16) 0 (((carry * 4 + d / 16) % 256).toUInt8 :: out)
        | 2 => base64Loop rest 3 (d % 4) 0 (((carry * 16 + d / 4) % 256).toUInt8 :: out)
        | _ => base64Loop rest 0 0 0 (((carry * 64 + d) % 256).toUInt8 :: out)

def decodeBase64 (bs : List UInt8) : Except Base64Error (List UInt8) := base64Loop bs 0 0 0 []

end AdocLint.Text
