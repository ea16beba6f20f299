import AdocLint.Value.Literal
import AdocLint.Text.Printable

/-! JSON text of values, laid out and escaped as reports print it. -/

namespace AdocLint.Text

def jsonChar (c : Char) : List Char :=
  let n := c.toNat
  if c = '"' then ['\\', '"']
  else if c = '\\' then ['\\', '\\']
  else if c = '\n' then ['\\', 'n']
  else if c = '\r' then ['\\', 'r']
  else if c = '\t' then ['\\', 't']
  else if n = 8 then ['\\', 'b']
  else if n = 12 then ['\\', 'f']
  else if 0x20 ≤ n && n ≤ 0x7E then [c]
  else if n < 0x10000 then '\\' :: 'u' :: hexDigits 4 n
  else
    let m := n - 0x10000
    '\\' :: 'u' :: hexDigits 4 (0xD800 + m / 0x400) ++
      '\\' :: 'u' :: hexDigits 4 (0xDC00 + m % 0x400)

def jsonString (s : String) : String :=
  String.ofList ('"' :: s.toList.flatMap jsonChar ++ ['"'])

def jsonCodes (cs : List Nat) : String :=
  String.ofList ('"' :: cs.flatMap (fun n =>
    if isSurrogate n then '\\' :: 'u' :: hexDigits 4 n else jsonChar (Char.ofNat n)) ++ ['"'])

def jsonNumber (x : Float) : String :=
  match Binary64.kind x with
  | .nan => "NaN"
  | .infinite negative => if negative then "-Infinity" else "Infinity"
  | .finite .. => Value.floatText x

def jsonKey : Value → String
  | .str s => s
  | .none => "null"
  | .bool true => "true"
  | .bool false => "false"
  | .int n => toString n
  | .float x => jsonNumber x
  | v => v.literal

def indent (depth : Nat) : String := "".pushn ' ' (2 * depth)

mutual
def jsonText (depth : Nat) : Value → String
  | .none => "null"
  | .bool true => "true"
  | .bool false => "false"
  | .int n => toString n
  | .float x => jsonNumber x
  | .str s => jsonString s
  | .codes cs => jsonCodes cs
  | .list [] => "[]"
  | .list (x :: xs) =>
    "[\n" ++ ",\n".intercalate (jsonItems (depth + 1) (x :: xs)) ++ "\n" ++ indent depth ++ "]"
  | .tuple [] => "[]"
  | .tuple (x :: xs) =>
    "[\n" ++ ",\n".intercalate (jsonItems (depth + 1) (x :: xs)) ++ "\n" ++ indent depth ++ "]"
  | .map [] => "\x7b\x7d"
  | .map (e :: es) =>
    "\x7b\n" ++ ",\n".intercalate (jsonEntries (depth + 1) (e :: es)) ++ "\n" ++ indent depth ++
      "\x7d"
  | v => jsonString v.literal

def jsonItems (depth : Nat) : List Value → List String
  | [] => []
  | x :: xs => (indent depth ++ jsonText depth x) :: jsonItems depth xs

def jsonEntries (depth : Nat) : List (Value × Value) → List String
  | [] => []
  | (k, v) :: es =>
    (indent depth ++ jsonString (jsonKey k) ++ ": " ++ jsonText depth v) :: jsonEntries depth es
end

mutual
def jsonLine : Value → String
  | .list xs => "[" ++ ", ".intercalate (jsonLineItems xs) ++ "]"
  | .tuple xs => "[" ++ ", ".intercalate (jsonLineItems xs) ++ "]"
  | .map es => "\x7b" ++ ", ".intercalate (jsonLineEntries es) ++ "\x7d"
  | v => jsonText 0 v

def jsonLineItems : List Value → List String
  | [] => []
  | x :: xs => jsonLine x :: jsonLineItems xs

def jsonLineEntries : List (Value × Value) → List String
  | [] => []
  | (k, v) :: es => (jsonString (jsonKey k) ++ ": " ++ jsonLine v) :: jsonLineEntries es
end

end AdocLint.Text
