import AdocLint.Yaml.Parser
import AdocLint.Yaml.Source
import AdocLint.Yaml.Timestamp
import AdocLint.Text.Numeral
import AdocLint.Text.Lower
import AdocLint.Value.Literal
import AdocLint.Value.SetOrder
import AdocLint.Text.Base64

/-! Values from the nodes of a YAML document, with merge keys folded in and collections filled in
the order they were made. -/

namespace AdocLint.Yaml

structure Building where
  nodes : Array Node
  store : Array Value
  made : Array Bool
  pending : List Nat := []
  deriving Inhabited

abbrev BuildM := StateT Building (Except YamlError)

def constructError (context : Option (String × Mark)) (problem : String) (m : Mark) : YamlError :=
  .located { context := context.map (·.1), contextMark := context.map (·.2),
             problem, problemMark := some m }

def nodeAt (i : Nat) : BuildM Node := do
  return (← get).nodes.getD i default

def setNodeAt (i : Nat) (n : Node) : BuildM Unit :=
  modify fun b => { b with nodes := b.nodes.setIfInBounds i n }

def scalarCodes (value : String) (codes : Option (List Nat)) : List Nat :=
  codes.getD (value.toList.map Char.toNat)

def charsOf (cs : List Nat) : List Char := cs.map Char.ofNat

def shown (cs : List Nat) : String := Text.quoteCodes cs

def underscore : Nat := 0x5F

def noFirstCharacter : YamlError := .conversion "string index out of range"

def intIn (base : Nat) (cs : List Nat) : Except YamlError Int :=
  match Text.readInt base (charsOf cs) with
  | .ok n => .ok n
  | .error .invalid =>
    .error (.conversion s!"invalid literal for int() with base {base}: {String.ofList ((shown cs).toList.take 200)}")
  | .error (.tooManyDigits k) =>
    .error (.conversion (s!"Exceeds the limit (4300 digits) for integer string conversion: value has {k} digits; " ++
      "use sys.set_int_max_str_digits() to increase the limit"))

def splitColons (cs : List Nat) : List (List Nat) :=
  (cs.splitOn 0x3A)

def intValue (cs : List Nat) : Except YamlError Value := do
  let cs := cs.filter (· != underscore)
  let first ← match cs.head? with
    | some c => pure c
    | none => throw noFirstCharacter
  let negative := first == 0x2D
  let cs := if first == 0x2D || first == 0x2B then cs.drop 1 else cs
  let signed (n : Int) : Value := .int (if negative then -n else n)
  if cs == [0x30] then return .int 0
  match cs with
  | 0x30 :: 0x62 :: rest => return signed (← intIn 2 rest)
  | 0x30 :: 0x78 :: rest => return signed (← intIn 16 rest)
  | 0x30 :: _ => return signed (← intIn 8 cs)
  | [] => throw noFirstCharacter
  | _ =>
    if cs.contains 0x3A then
      let parts ← (splitColons cs).mapM (intIn 10)
      return signed (parts.foldl (fun acc d => acc * 60 + d) 0)
    else return signed (← intIn 10 cs)

def floatIn (cs : List Nat) : Except YamlError Float :=
  match Text.readFloat (charsOf cs) with
  | some x => .ok x
  | none => .error (.conversion s!"could not convert string to float: {shown cs}")

def beyondBinary64 (n : Nat) : Bool := n ≥ Nat.pow 2 1024 - Nat.pow 2 970

def floatValue (cs : List Nat) : Except YamlError Value := do
  let cs := Text.lowerCodes (cs.filter (· != underscore))
  let first ← match cs.head? with
    | some c => pure c
    | none => throw noFirstCharacter
  let negative := first == 0x2D
  let cs := if first == 0x2D || first == 0x2B then cs.drop 1 else cs
  let signed (x : Float) : Value := .float (if negative then -x else x)
  if cs == ".inf".toList.map Char.toNat then return signed (Binary64.infinity false)
  if cs == ".nan".toList.map Char.toNat then return .float (Float.ofBits 0xFFF8000000000000)
  if cs.contains 0x3A then
    let parts ← (splitColons cs).mapM floatIn
    if beyondBinary64 (Nat.pow 60 (parts.length - 1)) then
      throw (.conversion "int too large to convert to float")
    let total := (parts.reverse.zipIdx).foldl
      (fun acc (d, i) => acc + d * Binary64.ofInt (Int.pow 60 i)) (0.0 : Float)
    return signed total
  else return signed (← floatIn cs)

def sharedNan (cs : List Nat) : Bool :=
  let cs := Text.lowerCodes (cs.filter (· != underscore))
  let cs := match cs.head? with
    | some 0x2D => cs.drop 1
    | some 0x2B => cs.drop 1
    | _ => cs
  cs == ".nan".toList.map Char.toNat

def boolValue (cs : List Nat) : Except YamlError Value :=
  let low := Text.lowerCodes cs
  let word := String.ofList (charsOf low)
  if ["yes", "true", "on"].contains word then .ok (.bool true)
  else if ["no", "false", "off"].contains word then .ok (.bool false)
  else .error (.conversion (shown low))

def Zone.seconds : Zone → Option Int
  | .utc => some 0
  | .offset negative h m =>
    let s : Int := (h * 60 + m.getD 0) * 60
    some (if negative then -s else s)

def timestampValue (cs : List Nat) : Except YamlError Value :=
  match readStamp false (charsOf cs) with
  | none => .error (.conversion "'NoneType' object has no attribute 'groupdict'")
  | some st =>
    match st.clock with
    | none =>
      match Date.make st.year st.month st.day with
      | .ok d => .ok (.date d)
      | .error m => .error (.conversion m)
    | some c =>
      let micro := match c.fraction with
        | some ds => asciiValue ((ds.take 6) ++ List.replicate (6 - ds.length) '0')
        | none => 0
      let offset := c.zone.bind Zone.seconds
      match Moment.make st.year st.month st.day c.hour c.minute c.second micro offset with
      | .ok t => .ok (.moment t)
      | .error m => .error (.conversion m)

def asciiFault? (cs : List Nat) : Option String :=
  match cs.findIdx? (· ≥ 128) with
  | none => none
  | some i =>
    let run := ((cs.drop i).takeWhile (· ≥ 128)).length
    let c := cs.getD i 0
    let shownChar :=
      if c ≤ 0xFF then "\\x" ++ String.ofList (Text.hexDigits 2 c)
      else if c ≤ 0xFFFF then "\\u" ++ String.ofList (Text.hexDigits 4 c)
      else "\\U" ++ String.ofList (Text.hexDigits 8 c)
    some (if run == 1 then
        s!"'ascii' codec can't encode character '{shownChar}' in position {i}: " ++
          "ordinal not in range(128)"
      else
        s!"'ascii' codec can't encode characters in position {i}-{i + run - 1}: " ++
          "ordinal not in range(128)")

def binaryValue (cs : List Nat) (at_ : Mark) : Except YamlError Value :=
  match asciiFault? cs with
  | some m => .error (constructError none ("failed to convert base64 data into ascii: " ++ m) at_)
  | none =>
    match Text.decodeBase64 (cs.map Nat.toUInt8) with
    | .ok bs => .ok (.bytes bs)
    | .error e => .error (constructError none ("failed to decode base64 data: " ++ e.message) at_)

def noConstructor (n : Node) : YamlError :=
  constructError none s!"could not determine a constructor for the tag {Text.quote n.tag}" n.start

def collectionTags : List String :=
  [stdTag "seq", stdTag "map", stdTag "set", stdTag "omap", stdTag "pairs"]

def notScalar (n : Node) : YamlError :=
  constructError none s!"expected a scalar node, but found {n.kindName}" n.start

def scalarText : Nat → Nat → BuildM (String × Option (List Nat))
  | 0, _ => throw (.conversion "maximum recursion depth exceeded")
  | fuel + 1, i => do
    let n ← nodeAt i
    match n with
    | .scalar _ value codes _ => return (value, codes)
    | .mapping _ es _ =>
      let keyed ← es.filterM fun (k, _) => do return (← nodeAt k).tag == stdTag "value"
      match keyed with
      | (_, v) :: _ => scalarText fuel v
      | [] => throw (notScalar n)
    | _ => throw (notScalar n)

def construct (i : Nat) : BuildM Value := do
  let n ← nodeAt i
  let tag := n.tag
  if collectionTags.contains tag then
    let b ← get
    if !(b.made.getD i false) then
      let empty : Value := if tag == stdTag "map" then .map []
        else if tag == stdTag "set" then .set [] else .list []
      set { b with store := b.store.setIfInBounds i empty, made := b.made.setIfInBounds i true,
                   pending := b.pending ++ [i] }
    return .ref i
  let scalarTags := [stdTag "str", stdTag "null", stdTag "bool", stdTag "int", stdTag "float",
    stdTag "binary", stdTag "timestamp"]
  if !scalarTags.contains tag then throw (noConstructor n)
  let (value, codes) ← scalarText ((← get).nodes.size + 1) i
  let cs := scalarCodes value codes
  if tag == stdTag "str" then
    return match codes with
      | some points => .codes points
      | none => .str value
  else if tag == stdTag "null" then return .none
  else if tag == stdTag "bool" then liftExcept (boolValue cs)
  else if tag == stdTag "int" then liftExcept (intValue cs)
  else if tag == stdTag "float" then liftExcept (floatValue cs)
  else if tag == stdTag "binary" then liftExcept (binaryValue cs n.start)
  else
    match n with
    | .scalar .. => liftExcept (timestampValue cs)
    | _ => throw (.conversion "expected string or bytes-like object, got 'list'")
where
  liftExcept (r : Except YamlError Value) : BuildM Value :=
    match r with
    | .ok v => pure v
    | .error e => throw e

def entriesAt (i : Nat) : BuildM (List (Nat × Nat)) := do
  match ← nodeAt i with
  | .mapping _ es _ => return es
  | _ => return []

def setEntriesAt (i : Nat) (es : List (Nat × Nat)) : BuildM Unit := do
  match ← nodeAt i with
  | .mapping t _ m => setNodeAt i (.mapping t es m)
  | _ => pure ()

def mergeError (outer : Nat) (problem : String) (m : Mark) : BuildM α := do
  let o ← nodeAt outer
  throw (constructError (some ("while constructing a mapping", o.start)) problem m)

mutual
def flatten (fuel : Nat) (i : Nat) : BuildM Unit := do
  match fuel with
  | 0 => pure ()
  | f + 1 =>
    let merged ← flattenFrom f i 0 [] f
    if !merged.isEmpty then setEntriesAt i (merged ++ (← entriesAt i))

def flattenFrom (fuel : Nat) (i index : Nat) (merge : List (Nat × Nat)) :
    Nat → BuildM (List (Nat × Nat))
  | 0 => pure merge
  | steps + 1 => do
    let es ← entriesAt i
    match es[index]? with
    | none => pure merge
    | some (k, v) =>
      let key ← nodeAt k
      if key.tag == stdTag "merge" then
        setEntriesAt i (es.eraseIdx index)
        match ← nodeAt v with
        | .mapping .. =>
          flatten fuel v
          let more ← entriesAt v
          flattenFrom fuel i index (merge ++ more) steps
        | .sequence _ subs _ =>
          let parts ← subs.mapM fun s => do
            match ← nodeAt s with
            | .mapping .. =>
              flatten fuel s
              entriesAt s
            | other =>
              mergeError i s!"expected a mapping for merging, but found {other.kindName}" other.start
          flattenFrom fuel i index (merge ++ parts.reverse.flatten) steps
        | other =>
          mergeError i
            s!"expected a mapping or list of mappings for merging, but found {other.kindName}"
            other.start
      else
        if key.tag == stdTag "value" then setNodeAt k (key.withTag (stdTag "str"))
        flattenFrom fuel i (index + 1) merge steps
end

def keyObject (k : Nat) : BuildM Nat := do
  let n ← nodeAt k
  let past := (← get).nodes.size
  if n.tag == stdTag "float" then
    let (value, codes) ← scalarText (past + 1) k
    if sharedNan (scalarCodes value codes) then return past
  return k

def setKeyed (k : Value) (obj : Nat) (v : Value) :
    List ((Value × Nat) × Value) → List ((Value × Nat) × Value)
  | [] => [((k, obj), v)]
  | ((k', o'), v') :: rest =>
    if o' == obj || Value.same k' k then ((k', o'), v) :: rest
    else ((k', o'), v') :: setKeyed k obj v rest

def mappingPairs (i : Nat) : BuildM (List (Value × Value)) := do
  let n ← nodeAt i
  match n with
  | .mapping .. =>
    let total := (← get).nodes.foldl (fun acc nd => match nd with
      | .mapping _ es _ => acc + es.length + 1
      | _ => acc) 1
    flatten (total * total + 16) i
    let es ← entriesAt i
    let mut acc : List ((Value × Nat) × Value) := []
    for (k, v) in es do
      let key ← construct k
      let hashable := match key with
        | .ref _ => false
        | _ => key.isHashable
      if !hashable then
        throw (constructError (some ("while constructing a mapping", n.start)) "found unhashable key"
          (← nodeAt k).start)
      let value ← construct v
      acc := setKeyed key (← keyObject k) value acc
    return acc.map fun ((key, _), value) => (key, value)
  | _ => throw (constructError none s!"expected a mapping node, but found {n.kindName}" n.start)

def pairList (what : String) (i : Nat) : BuildM Value := do
  let n ← nodeAt i
  let context := some (s!"while constructing {what}", n.start)
  match n with
  | .sequence _ subs _ =>
    let items ← subs.mapM fun s => do
      match ← nodeAt s with
      | .mapping _ [(k, v)] _ =>
        let key ← construct k
        let value ← construct v
        return Value.tuple [key, value]
      | .mapping _ es m =>
        throw (constructError context
          s!"expected a single mapping item, but found {es.length} items" m)
      | other =>
        throw (constructError context
          s!"expected a mapping of length 1, but found {other.kindName}" other.start)
    return .list items
  | _ =>
    throw (constructError context s!"expected a sequence, but found {n.kindName}" n.start)

def fill (i : Nat) : BuildM Unit := do
  let n ← nodeAt i
  let tag := n.tag
  let v : Value ← if tag == stdTag "seq" then do
      match n with
      | .sequence _ items _ => pure (.list (← items.mapM construct))
      | _ => throw (constructError none s!"expected a sequence node, but found {n.kindName}" n.start)
    else if tag == stdTag "map" then do
      pure (.map (← mappingPairs i))
    else if tag == stdTag "set" then do
      let pairs ← mappingPairs i
      pure (.set (Value.setOrder (pairs.map (·.1))))
    else if tag == stdTag "omap" then pairList "an ordered map" i
    else pairList "pairs" i
  modify fun b => { b with store := b.store.setIfInBounds i v }

def fillAll : Nat → BuildM Unit
  | 0 => pure ()
  | fuel + 1 => do
    match (← get).pending with
    | [] => pure ()
    | i :: rest =>
      modify fun b => { b with pending := rest }
      fill i
      fillAll fuel

def buildGraph (nodes : Array Node) (root : Nat) : Except YamlError Graph := do
  let start : Building :=
    { nodes, store := Array.replicate nodes.size .none, made := Array.replicate nodes.size false }
  let (v, b) ← (do
      let v ← construct root
      fillAll (nodes.size + 1)
      return v).run start
  return ⟨b.store, v⟩

def load (src : Source) : Except YamlError Graph := do
  match ← Parsing.document.run { scanner := Scanner.start src.chars src.stop } with
  | (none, _) => return ⟨#[], .none⟩
  | (some root, st) => buildGraph st.nodes root

end AdocLint.Yaml
