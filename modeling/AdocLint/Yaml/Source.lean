import AdocLint.Yaml.Token
import AdocLint.Text.Utf8
import AdocLint.Text.Blank

/-! YAML text as it reaches the scanner from a file, with the first place where reading faults. -/

namespace AdocLint.Yaml

def isAcceptable (c : Char) : Bool :=
  let n := c.toNat
  n == 0x09 || n == 0x0A || n == 0x0D || (0x20 ≤ n && n ≤ 0x7E) || n == 0x85 ||
    (0xA0 ≤ n && n ≤ 0xD7FF) || (0xE000 ≤ n && n ≤ 0xFFFD) || 0x10000 ≤ n

structure Source where
  chars : Array Char
  stop : Option (Nat × YamlError) := none
  deriving Inhabited

def charBlock : Nat := 4096

def byteBlock : Nat := 8192

def frontierOf (at_ : Nat) : Nat :=
  let block := at_ / charBlock
  if block ≤ 1 then 0 else block * charBlock

def unacceptableStop (cs : List Char) : Option (Nat × YamlError) :=
  (cs.zipIdx.find? fun (c, _) => !isAcceptable c).map fun (c, i) =>
    (frontierOf i, .unacceptable c.toNat i)

def Source.earlier :
    Option (Nat × YamlError) → Option (Nat × YamlError) → Option (Nat × YamlError)
  | some a, some b => if b.1 < a.1 then some b else some a
  | some a, none => some a
  | none, b => b

def Source.ofText (s : String) : Source :=
  let cs := s.toList
  ⟨cs.toArray, unacceptableStop cs⟩

def leadOf (bytes : List UInt8) (i : Nat) : Nat :=
  let back := ((bytes.take i).reverse.takeWhile Text.isContinuation).length
  match bytes[i]? with
  | some b => if Text.isContinuation b && back < 3 && back < i then i - back - 1 else i
  | none => i

def Source.ofBytes (bytes : ByteArray) : Source :=
  let bs := bytes.toList
  match Text.decodeFrom 0 [] bs with
  | .ok cs =>
    let text := Text.unifyNewlines cs
    ⟨text.toArray, unacceptableStop text⟩
  | .error f =>
    let seen := match f.reason with
      | .invalidStart => f.position
      | .invalidContinuation => f.position + f.span
      | .unexpectedEnd => bs.length
    let blockStart := if f.reason == .unexpectedEnd then f.position
      else min f.position (leadOf bs (seen / byteBlock * byteBlock))
    let before := match Text.decodeFrom 0 [] (bs.take blockStart) with
      | .ok cs => cs
      | .error _ => []
    let before := if before.getLast? == some '\r' then before.dropLast else before
    let text := Text.unifyNewlines before
    let fault : YamlError := .undecodable { f with position := f.position - blockStart }
    let decodeStop := (frontierOf text.length, fault)
    ⟨text.toArray, Source.earlier (some decodeStop) (unacceptableStop text)⟩

end AdocLint.Yaml
