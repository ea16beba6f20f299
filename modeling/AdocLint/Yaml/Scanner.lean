import AdocLint.Yaml.Token

/-! The YAML scanner: text into tokens on demand, with block structure from indentation. -/

namespace AdocLint.Yaml

structure SimpleKey where
  tokenNumber : Nat
  required : Bool
  index : Nat
  line : Nat
  mark : Mark
  column : Nat
  deriving Inhabited, Repr

structure Scanner where
  text : Array Char
  stop : Option (Nat × YamlError) := none
  index : Nat := 0
  line : Nat := 0
  column : Nat := 0
  done : Bool := false
  flowLevel : Nat := 0
  queue : List Token := []
  taken : Nat := 0
  indent : Int := -1
  indents : List Int := []
  allowSimpleKey : Bool := true
  keys : List (Nat × SimpleKey) := []
  deriving Inhabited

abbrev ScanM := StateT Scanner (Except YamlError)

def isBreakChar (c : Char) : Bool :=
  c == '\r' || c == '\n' || c == '\x85' || c == '\u2028' || c == '\u2029'

def isBreakOrEnd (c : Char) : Bool := c == '\x00' || isBreakChar c

def isBlankOrEnd (c : Char) : Bool := c == ' ' || c == '\t' || isBreakOrEnd c

def isNameChar (c : Char) : Bool :=
  ('0' ≤ c && c ≤ '9') || ('A' ≤ c && c ≤ 'Z') || ('a' ≤ c && c ≤ 'z') || c == '-' || c == '_'

namespace Scanner

def touch (i : Nat) : ScanM Unit := do
  match (← get).stop with
  | some (f, e) => if i ≥ f then throw e
  | none => pure ()

def peek (k : Nat := 0) : ScanM Char := do
  let s ← get
  touch (s.index + k)
  return s.text.getD (s.index + k) '\x00'

def prefixOf (n : Nat) : ScanM String := do
  let s ← get
  if n > 0 then touch (s.index + n - 1)
  return String.ofList ((List.range n).map fun k => s.text.getD (s.index + k) '\x00')

def mark : ScanM Mark := do
  let s ← get
  return { index := s.index, line := s.line, column := s.column }

def forward1 : ScanM Unit := modify fun s =>
  let ch := s.text.getD s.index '\x00'
  let next := s.text.getD (s.index + 1) '\x00'
  if ch == '\n' || ch == '\x85' || ch == '\u2028' || ch == '\u2029' ||
      (ch == '\r' && next != '\n') then
    { s with index := s.index + 1, line := s.line + 1, column := 0 }
  else if ch != '\uFEFF' then { s with index := s.index + 1, column := s.column + 1 }
  else { s with index := s.index + 1 }

def forward (n : Nat) : ScanM Unit := do
  touch ((← get).index + n)
  let rec go : Nat → ScanM Unit
    | 0 => pure ()
    | k + 1 => do forward1; go k
  go n

def runFrom (text : Array Char) (p : Char → Bool) (i : Nat) : Nat → Nat
  | 0 => 0
  | fuel + 1 => if p (text.getD i '\x00') then runFrom text p (i + 1) fuel + 1 else 0

def runLength (p : Char → Bool) : ScanM Nat := do
  let s ← get
  let n := runFrom s.text p s.index (s.text.size + 1 - s.index)
  touch (s.index + n)
  return n

def skipWhile (p : Char → Bool) : ScanM Unit := do
  let n ← runLength p
  forward n

def fail (context : Option String) (contextMark : Option Mark) (problem : String) :
    ScanM α := do
  let m ← mark
  throw (.located { context, contextMark, problem, problemMark := some m })

def push (k : TokenKind) (start stop : Mark) : ScanM Unit :=
  modify fun s => { s with queue := s.queue ++ [⟨k, start, stop⟩] }

def pushHere (k : TokenKind) : ScanM Unit := do
  let start ← mark
  forward 1
  let stop ← mark
  push k start stop

def lineBreak : ScanM String := do
  let ch ← peek
  if ch == '\r' || ch == '\n' || ch == '\x85' then
    if (← prefixOf 2) == "\r\n" then forward 2 else forward 1
    return "\n"
  else if ch == '\u2028' || ch == '\u2029' then
    forward 1
    return String.singleton ch
  else return ""

def markerAhead (m : String) : ScanM Bool := do
  if (← prefixOf 3) == m then return isBlankOrEnd (← peek 3)
  else return false

def anyMarkerAhead : ScanM Bool := do
  let p ← prefixOf 3
  if p == "---" || p == "..." then return isBlankOrEnd (← peek 3)
  else return false

def dropStaleKeys : ScanM Unit := do
  let s ← get
  let m ← mark
  let stale := s.keys.filter fun (_, k) => k.line != s.line || s.index - k.index > 1024
  match stale.find? (·.2.required) with
  | some (_, k) =>
    throw (.located
      { context := some "while scanning a simple key", contextMark := some k.mark,
        problem := "could not find expected ':'", problemMark := some m })
  | none =>
    set { s with
      keys := s.keys.filter fun (_, k) => !(k.line != s.line || s.index - k.index > 1024) }

def removeKey : ScanM Unit := do
  let s ← get
  match s.keys.lookup s.flowLevel with
  | some k =>
    if k.required then
      fail (some "while scanning a simple key") (some k.mark) "could not find expected ':'"
    else set { s with keys := s.keys.filter (fun (e : Nat × SimpleKey) => e.1 != s.flowLevel) }
  | none => pure ()

def saveKey : ScanM Unit := do
  let s ← get
  let required := s.flowLevel == 0 && s.indent == (s.column : Int)
  if s.allowSimpleKey then
    removeKey
    let s ← get
    let m ← mark
    let k : SimpleKey :=
      { tokenNumber := s.taken + s.queue.length, required, index := s.index,
        line := s.line, column := s.column, mark := m }
    set { s with
      keys := s.keys.filter (fun (e : Nat × SimpleKey) => e.1 != s.flowLevel) ++ [(s.flowLevel, k)] }

def unwindIndent (col : Int) : ScanM Unit := do
  let s ← get
  if s.flowLevel != 0 then return
  let m ← mark
  let rec go : List Int → Int → List Token → Nat → List Int × Int × List Token
    | stack, ind, acc, 0 => (stack, ind, acc)
    | stack, ind, acc, fuel + 1 =>
      if ind > col then
        match stack with
        | top :: rest => go rest top (acc ++ [⟨.blockEnd, m, m⟩]) fuel
        | [] => (stack, ind, acc)
      else (stack, ind, acc)
  let (stack, ind, ends) := go s.indents s.indent [] (s.indents.length + 1)
  set { s with indents := stack, indent := ind, queue := s.queue ++ ends }

def addIndent (col : Int) : ScanM Bool := do
  let s ← get
  if s.indent < col then
    set { s with indents := s.indent :: s.indents, indent := col }
    return true
  else return false

def toNextToken : ScanM Unit := do
  let s ← get
  if s.index == 0 && (← peek) == '\uFEFF' then forward 1
  let rec go : Nat → ScanM Unit
    | 0 => pure ()
    | fuel + 1 => do
      skipWhile (· == ' ')
      if (← peek) == '#' then skipWhile fun c => !isBreakOrEnd c
      if (← lineBreak) != "" then
        if (← get).flowLevel == 0 then modify fun s => { s with allowSimpleKey := true }
        go fuel
  go ((← get).text.size + 1)

def fetchStreamEnd : ScanM Unit := do
  unwindIndent (-1)
  removeKey
  modify fun s => { s with allowSimpleKey := false, keys := [] }
  let m ← mark
  push .streamEnd m m
  modify fun s => { s with done := true }

def quoteChar (c : Char) : String := Text.quote (String.singleton c)

def endsWord (c : Char) : Bool := c == '\x00' || c == ' ' || isBreakChar c

def directiveFail (start : Mark) (problem : String) : ScanM α :=
  fail (some "while scanning a directive") (some start) problem

def versionNumber (start : Mark) : ScanM Nat := do
  let ch ← peek
  if !('0' ≤ ch && ch ≤ '9') then directiveFail start s!"expected a digit, but found {quoteChar ch}"
  let n ← runLength fun c => '0' ≤ c && c ≤ '9'
  let ds ← prefixOf n
  forward n
  return ds.toList.foldl (fun acc c => acc * 10 + (c.toNat - 48)) 0

def tagHandle (what : String) (start : Mark) : ScanM String := do
  let ch ← peek
  if ch != '!' then
    fail (some s!"while scanning a {what}") (some start) s!"expected '!', but found {quoteChar ch}"
  if (← peek 1) == ' ' then
    forward 1
    return "!"
  let s ← get
  let n := runFrom s.text isNameChar (s.index + 1) (s.text.size + 1)
  let ch ← peek (n + 1)
  if ch != '!' then
    forward (n + 1)
    fail (some s!"while scanning a {what}") (some start) s!"expected '!', but found {quoteChar ch}"
  let h ← prefixOf (n + 2)
  forward (n + 2)
  return h

def isHexDigit (c : Char) : Bool :=
  ('0' ≤ c && c ≤ '9') || ('a' ≤ c && c ≤ 'f') || ('A' ≤ c && c ≤ 'F')

def hexValue (c : Char) : Nat :=
  if '0' ≤ c && c ≤ '9' then c.toNat - '0'.toNat
  else if 'a' ≤ c && c ≤ 'f' then c.toNat - 'a'.toNat + 10
  else c.toNat - 'A'.toNat + 10

def uriEscapes (what : String) (start : Mark) : ScanM String := do
  let m ← mark
  let rec go : Nat → List UInt8 → ScanM (List UInt8)
    | 0, acc => pure acc
    | fuel + 1, acc => do
      if (← peek) != '%' then return acc
      forward 1
      for k in [0, 1] do
        let c ← peek k
        if !isHexDigit c then
          fail (some s!"while scanning a {what}") (some start)
            s!"expected URI escape sequence of 2 hexadecimal numbers, but found {quoteChar c}"
      let code := 16 * hexValue (← peek 0) + hexValue (← peek 1)
      forward 2
      go fuel (acc ++ [code.toUInt8])
  let bytes ← go ((← get).text.size + 1) []
  match Text.decodeUtf8 ⟨bytes.toArray⟩ with
  | .ok t => return t
  | .error f =>
    let context := s!"while scanning a {what}"
    throw (.located
      { context := some context, contextMark := some start, problem := f.message,
        problemMark := some m })

def isUriChar (c : Char) : Bool :=
  isNameChar c || ";/?:@&=+$,.!~*'()[]%".toList.contains c

def tagUri (what : String) (start : Mark) : ScanM String := do
  let rec go : Nat → List String → ScanM (List String)
    | 0, acc => pure acc
    | fuel + 1, acc => do
      let n ← runLength fun c => isUriChar c && c != '%'
      let chunk ← prefixOf n
      forward n
      let acc := if n > 0 then acc ++ [chunk] else acc
      if (← peek) == '%' then
        let t ← uriEscapes what start
        go fuel (acc ++ [t])
      else pure acc
  let chunks ← go ((← get).text.size + 1) []
  if chunks.isEmpty then
    let ch ← peek
    fail (some s!"while parsing a {what}") (some start) s!"expected URI, but found {quoteChar ch}"
  return String.join chunks

def fetchDirective : ScanM Unit := do
  unwindIndent (-1)
  removeKey
  modify fun s => { s with allowSimpleKey := false }
  let start ← mark
  forward 1
  let n ← runLength isNameChar
  if n == 0 then
    directiveFail start s!"expected alphabetic or numeric character, but found {quoteChar (← peek)}"
  let name ← prefixOf n
  forward n
  let ch ← peek
  if !endsWord ch then
    directiveFail start s!"expected alphabetic or numeric character, but found {quoteChar ch}"
  let (d, stop) ← if name == "YAML" then do
      skipWhile (· == ' ')
      let major ← versionNumber start
      let ch ← peek
      if ch != '.' then directiveFail start s!"expected a digit or '.', but found {quoteChar ch}"
      forward 1
      let minor ← versionNumber start
      let ch ← peek
      if !endsWord ch then directiveFail start s!"expected a digit or ' ', but found {quoteChar ch}"
      pure (Directive.version major minor, ← mark)
    else if name == "TAG" then do
      skipWhile (· == ' ')
      let handle ← tagHandle "directive" start
      let ch ← peek
      if ch != ' ' then directiveFail start s!"expected ' ', but found {quoteChar ch}"
      skipWhile (· == ' ')
      let pfx ← tagUri "directive" start
      let ch ← peek
      if !endsWord ch then directiveFail start s!"expected ' ', but found {quoteChar ch}"
      pure (Directive.tagPrefix handle pfx, ← mark)
    else do
      let m ← mark
      skipWhile fun c => !isBreakOrEnd c
      pure (Directive.other name, m)
  skipWhile (· == ' ')
  if (← peek) == '#' then skipWhile fun c => !isBreakOrEnd c
  let ch ← peek
  if !isBreakOrEnd ch then
    directiveFail start s!"expected a comment or a line break, but found {quoteChar ch}"
  discard lineBreak
  push (.directive d) start stop

def fetchDocumentIndicator (k : TokenKind) : ScanM Unit := do
  unwindIndent (-1)
  removeKey
  modify fun s => { s with allowSimpleKey := false }
  let start ← mark
  forward 3
  let stop ← mark
  push k start stop

def fetchFlowStart (k : TokenKind) : ScanM Unit := do
  saveKey
  modify fun s => { s with flowLevel := s.flowLevel + 1, allowSimpleKey := true }
  pushHere k

def fetchFlowEnd (k : TokenKind) : ScanM Unit := do
  removeKey
  modify fun s => { s with flowLevel := s.flowLevel - 1, allowSimpleKey := false }
  pushHere k

def fetchFlowEntry : ScanM Unit := do
  modify fun s => { s with allowSimpleKey := true }
  removeKey
  pushHere .flowEntry

def fetchBlockEntry : ScanM Unit := do
  let s ← get
  if s.flowLevel == 0 then
    if !s.allowSimpleKey then fail none none "sequence entries are not allowed here"
    if ← addIndent s.column then
      let m ← mark
      push .blockSequenceStart m m
  modify fun s => { s with allowSimpleKey := true }
  removeKey
  pushHere .blockEntry

def fetchKey : ScanM Unit := do
  let s ← get
  if s.flowLevel == 0 then
    if !s.allowSimpleKey then fail none none "mapping keys are not allowed here"
    if ← addIndent s.column then
      let m ← mark
      push .blockMappingStart m m
  modify fun s => { s with allowSimpleKey := s.flowLevel == 0 }
  removeKey
  pushHere .key

def fetchValue : ScanM Unit := do
  let s ← get
  match s.keys.lookup s.flowLevel with
  | some k =>
    let at_ := k.tokenNumber - s.taken
    let q := s.queue.insertIdx at_ ⟨.key, k.mark, k.mark⟩
    set { s with
      keys := s.keys.filter (fun (e : Nat × SimpleKey) => e.1 != s.flowLevel), queue := q }
    if s.flowLevel == 0 then
      if ← addIndent k.column then
        modify fun s =>
          { s with queue := s.queue.insertIdx at_ ⟨.blockMappingStart, k.mark, k.mark⟩ }
    modify fun s => { s with allowSimpleKey := false }
  | none =>
    if s.flowLevel == 0 then
      if !s.allowSimpleKey then fail none none "mapping values are not allowed here"
      if ← addIndent s.column then
        let m ← mark
        push .blockMappingStart m m
    modify fun s => { s with allowSimpleKey := s.flowLevel == 0 }
    removeKey
  pushHere .value

def fetchAnchor (isAlias : Bool) : ScanM Unit := do
  saveKey
  modify fun s => { s with allowSimpleKey := false }
  let start ← mark
  let what := if isAlias then "alias" else "anchor"
  forward 1
  let n ← runLength isNameChar
  if n == 0 then
    let ch ← peek
    fail (some s!"while scanning an {what}") (some start)
      s!"expected alphabetic or numeric character, but found {Text.quote (String.singleton ch)}"
  let name ← prefixOf n
  forward n
  let ch ← peek
  if !(isBlankOrEnd ch || "?:,]\x7d%@\x60".toList.contains ch) then
    fail (some s!"while scanning an {what}") (some start)
      s!"expected alphabetic or numeric character, but found {Text.quote (String.singleton ch)}"
  let stop ← mark
  push (if isAlias then .alias name else .anchor name) start stop

def fetchTag : ScanM Unit := do
  saveKey
  modify fun s => { s with allowSimpleKey := false }
  let start ← mark
  let ch1 ← peek 1
  let (handle, suffix) ← if ch1 == '<' then do
      forward 2
      let u ← tagUri "tag" start
      let ch ← peek
      if ch != '>' then
        fail (some "while parsing a tag") (some start)
          s!"expected '>', but found {Text.quote (String.singleton ch)}"
      forward 1
      pure (none, u)
    else if isBlankOrEnd ch1 then do
      forward 1
      pure (none, "!")
    else do
      let s ← get
      let n := runFrom s.text (fun c => !(endsWord c || c == '!')) (s.index + 1) (s.text.size + 1)
      if (← peek (n + 1)) == '!' then
        let h ← tagHandle "tag" start
        let u ← tagUri "tag" start
        pure (some h, u)
      else
        forward 1
        let u ← tagUri "tag" start
        pure (some "!", u)
  let ch ← peek
  if !(ch == '\x00' || ch == ' ' || isBreakChar ch) then
    fail (some "while scanning a tag") (some start)
      s!"expected ' ', but found {Text.quote (String.singleton ch)}"
  let stop ← mark
  push (.tag handle suffix) start stop

def blockBreaks (indent : Nat) : Nat → List String → Mark → ScanM (List String × Mark)
  | 0, acc, m => pure (acc, m)
  | fuel + 1, acc, m => do
    let rec spaces : Nat → ScanM Unit
      | 0 => pure ()
      | f + 1 => do
        if (← get).column < indent && (← peek) == ' ' then
          forward 1
          spaces f
    spaces ((← get).text.size + 1)
    if isBreakChar (← peek) then
      let b ← lineBreak
      let m ← mark
      blockBreaks indent fuel (acc ++ [b]) m
    else pure (acc, m)

def blockIndentation : Nat → List String → Nat → Mark → ScanM (List String × Nat × Mark)
  | 0, acc, most, m => pure (acc, most, m)
  | fuel + 1, acc, most, m => do
    let ch ← peek
    if ch == ' ' then
      forward 1
      let col := (← get).column
      blockIndentation fuel acc (max most col) m
    else if isBreakChar ch then
      let b ← lineBreak
      let m ← mark
      blockIndentation fuel (acc ++ [b]) most m
    else pure (acc, most, m)

def blockLines (folded : Bool) (indent : Nat) :
    Nat → List String → List String → String → Mark →
      ScanM (List String × String × List String × Mark)
  | 0, chunks, breaks, lb, m => pure (chunks, lb, breaks, m)
  | fuel + 1, chunks, breaks, lb, m => do
    if (← get).column == indent && (← peek) != '\x00' then
      let chunks := chunks ++ breaks
      let first ← peek
      let leadingNonSpace := first != ' ' && first != '\t'
      let n ← runLength fun c => !isBreakOrEnd c
      let text ← prefixOf n
      forward n
      let lb ← lineBreak
      let (breaks, m) ← blockBreaks indent ((← get).text.size + 1) [] (← mark)
      let chunks := chunks ++ [text]
      if (← get).column == indent && (← peek) != '\x00' then
        let next ← peek
        let chunks :=
          if folded && lb == "\n" && leadingNonSpace && next != ' ' && next != '\t' then
            if breaks.isEmpty then chunks ++ [" "] else chunks
          else chunks ++ [lb]
        blockLines folded indent fuel chunks breaks lb m
      else pure (chunks, lb, breaks, m)
    else pure (chunks, lb, breaks, m)

def fetchBlockScalar (folded : Bool) : ScanM Unit := do
  modify fun s => { s with allowSimpleKey := true }
  removeKey
  let start ← mark
  forward 1
  let context := some "while scanning a block scalar"
  let mut chomping : Option Bool := none
  let mut increment : Option Nat := none
  let ch ← peek
  if ch == '+' || ch == '-' then
    chomping := some (ch == '+')
    forward 1
    let d ← peek
    if d.isDigit then
      if d == '0' then
        fail context (some start) "expected indentation indicator in the range 1-9, but found 0"
      increment := some (d.toNat - '0'.toNat)
      forward 1
  else if ch.isDigit then
    if ch == '0' then
      fail context (some start) "expected indentation indicator in the range 1-9, but found 0"
    increment := some (ch.toNat - '0'.toNat)
    forward 1
    let c ← peek
    if c == '+' || c == '-' then
      chomping := some (c == '+')
      forward 1
  let c ← peek
  if !(c == '\x00' || c == ' ' || isBreakChar c) then
    fail context (some start)
      s!"expected chomping or indentation indicators, but found {Text.quote (String.singleton c)}"
  skipWhile (· == ' ')
  if (← peek) == '#' then skipWhile fun c => !isBreakOrEnd c
  let c ← peek
  if !isBreakOrEnd c then
    fail context (some start)
      s!"expected a comment or a line break, but found {Text.quote (String.singleton c)}"
  discard lineBreak
  let s ← get
  let minIndent : Nat := max 1 (s.indent + 1).toNat
  let fuel := s.text.size + 1
  let (breaks, indent, m) ← match increment with
    | none => do
      let (b, most, m) ← blockIndentation fuel [] 0 (← mark)
      pure (b, max minIndent most, m)
    | some inc => do
      let indent := minIndent + inc - 1
      let (b, m) ← blockBreaks indent fuel [] (← mark)
      pure (b, indent, m)
  let (chunks, lb, breaks, stop) ← blockLines folded indent fuel [] breaks "" m
  let chunks := if chomping != some false then chunks ++ [lb] else chunks
  let chunks := if chomping == some true then chunks ++ breaks else chunks
  push (.scalar (String.join chunks) false (some (if folded then '>' else '|')) none) start stop

def quotedBreaks (start : Mark) : Nat → List String → ScanM (List String)
  | 0, acc => pure acc
  | fuel + 1, acc => do
    if ← anyMarkerAhead then
      fail (some "while scanning a quoted scalar") (some start) "found unexpected document separator"
    skipWhile fun c => c == ' ' || c == '\t'
    if isBreakChar (← peek) then
      let b ← lineBreak
      quotedBreaks start fuel (acc ++ [b])
    else pure acc

def escapeFor : Char → Option Char
  | '0' => some '\x00'
  | 'a' => some '\x07'
  | 'b' => some '\x08'
  | 't' => some '\t'
  | '\t' => some '\t'
  | 'n' => some '\n'
  | 'v' => some '\x0b'
  | 'f' => some '\x0c'
  | 'r' => some '\r'
  | 'e' => some '\x1b'
  | ' ' => some ' '
  | '"' => some '"'
  | '/' => some '/'
  | '\\' => some '\\'
  | 'N' => some '\x85'
  | '_' => some '\xa0'
  | 'L' => some '\u2028'
  | 'P' => some '\u2029'
  | _ => none

inductive Piece where
  | text (s : String)
  | unit (n : Nat)
  deriving Inhabited

def Piece.join (ps : List Piece) : String × Option (List Nat) :=
  let text := String.join (ps.map fun
    | .text t => t
    | .unit _ => "�")
  if ps.any (fun | .unit _ => true | _ => false) then
    (text, some (ps.flatMap fun
      | .text t => t.toList.map Char.toNat
      | .unit n => [n]))
  else (text, none)

def maxCodePoint : Nat := 0x10FFFF

def quotedNonSpaces (double : Bool) (start : Mark) : Nat → List Piece → ScanM (List Piece)
  | 0, acc => pure acc
  | fuel + 1, acc => do
    let n ← runLength fun c => !("'\"\\".toList.contains c || isBlankOrEnd c)
    let chunk ← prefixOf n
    let acc := if n > 0 then acc ++ [.text chunk] else acc
    forward n
    let ch ← peek
    let doubled ← if !double && ch == '\'' then (· == '\'') <$> peek 1 else pure false
    if doubled then
      forward 2
      quotedNonSpaces double start fuel (acc ++ [.text "'"])
    else if (double && ch == '\'') || (!double && (ch == '"' || ch == '\\')) then
      forward 1
      quotedNonSpaces double start fuel (acc ++ [.text (String.singleton ch)])
    else if double && ch == '\\' then
      forward 1
      let e ← peek
      match escapeFor e with
      | some r =>
        forward 1
        quotedNonSpaces double start fuel (acc ++ [.text (String.singleton r)])
      | none =>
        let width := if e == 'x' then 2 else if e == 'u' then 4 else if e == 'U' then 8 else 0
        if width > 0 then
          forward 1
          for k in List.range width do
            let c ← peek k
            if !isHexDigit c then
              fail (some "while scanning a double-quoted scalar") (some start)
                s!"expected escape sequence of {width} hexadecimal numbers, but found {quoteChar c}"
          let digits ← prefixOf width
          let code := digits.toList.foldl (fun a c => a * 16 + hexValue c) 0
          if code > maxCodePoint then throw (.conversion "chr() arg not in range(0x110000)")
          forward width
          let piece := if Text.isSurrogate code then Piece.unit code
            else .text (String.singleton (Char.ofNat code))
          quotedNonSpaces double start fuel (acc ++ [piece])
        else if isBreakChar e then
          discard lineBreak
          let bs ← quotedBreaks start ((← get).text.size + 1) []
          quotedNonSpaces double start fuel (acc ++ bs.map .text)
        else
          fail (some "while scanning a double-quoted scalar") (some start)
            s!"found unknown escape character {quoteChar e}"
    else pure acc

def quotedSpaces (start : Mark) : ScanM (List String) := do
  let n ← runLength fun c => c == ' ' || c == '\t'
  let ws ← prefixOf n
  forward n
  let ch ← peek
  if ch == '\x00' then
    fail (some "while scanning a quoted scalar") (some start) "found unexpected end of stream"
  else if isBreakChar ch then
    let lb ← lineBreak
    let bs ← quotedBreaks start ((← get).text.size + 1) []
    let head := if lb != "\n" then [lb] else if bs.isEmpty then [" "] else []
    return head ++ bs
  else return [ws]

def fetchQuoted (double : Bool) : ScanM Unit := do
  saveKey
  modify fun s => { s with allowSimpleKey := false }
  let start ← mark
  let quote ← peek
  forward 1
  let fuel := (← get).text.size + 1
  let first ← quotedNonSpaces double start fuel []
  let rec go : Nat → List Piece → ScanM (List Piece)
    | 0, acc => pure acc
    | f + 1, acc => do
      if (← peek) == quote then pure acc
      else
        let sp ← quotedSpaces start
        let more ← quotedNonSpaces double start fuel []
        go f (acc ++ sp.map .text ++ more)
  let pieces ← go fuel first
  forward 1
  let stop ← mark
  let (text, codes) := Piece.join pieces
  push (.scalar text false (some (if double then '"' else '\'')) codes) start stop

def plainSpaces : ScanM (Option (List String)) := do
  let n ← runLength (· == ' ')
  let ws ← prefixOf n
  forward n
  let ch ← peek
  if isBreakChar ch then
    let lb ← lineBreak
    modify fun s => { s with allowSimpleKey := true }
    if ← anyMarkerAhead then return none
    let rec go : Nat → List String → ScanM (Option (List String))
      | 0, acc => pure (some acc)
      | f + 1, acc => do
        let c ← peek
        if c == ' ' then
          forward 1
          go f acc
        else if isBreakChar c then
          let b ← lineBreak
          if ← anyMarkerAhead then return none
          go f (acc ++ [b])
        else pure (some acc)
    match ← go ((← get).text.size + 1) [] with
    | none => return none
    | some breaks =>
      let head := if lb != "\n" then [lb] else if breaks.isEmpty then [" "] else []
      return some (head ++ breaks)
  else if !ws.isEmpty then return some [ws]
  else return some []

def fetchPlain : ScanM Unit := do
  saveKey
  modify fun s => { s with allowSimpleKey := false }
  let start ← mark
  let s0 ← get
  let indent : Int := s0.indent + 1
  let rec go : Nat → List String → List String → Mark → ScanM (List String × Mark)
    | 0, chunks, _, stop => pure (chunks, stop)
    | fuel + 1, chunks, spaces, stop => do
      if (← peek) == '#' then return (chunks, stop)
      let flow := (← get).flowLevel != 0
      let s ← get
      let ends (i : Nat) : Bool :=
        let c := s.text.getD i '\x00'
        let nextC := s.text.getD (i + 1) '\x00'
        isBlankOrEnd c ||
          (c == ':' && (isBlankOrEnd nextC || (flow && ",[]\x7b\x7d".toList.contains nextC))) ||
          (flow && ",?[]\x7b\x7d".toList.contains c)
      let rec len : Nat → Nat → Nat
        | 0, n => n
        | f + 1, n => if ends (s.index + n) then n else len f (n + 1)
      let length := len (s.text.size + 1 - s.index) 0
      touch (s.index + length + (if s.text.getD (s.index + length) '\x00' == ':' then 1 else 0))
      if length == 0 then return (chunks, stop)
      modify fun s => { s with allowSimpleKey := false }
      let text ← prefixOf length
      forward length
      let stop ← mark
      let chunks := chunks ++ spaces ++ [text]
      match ← plainSpaces with
      | none => return (chunks, stop)
      | some sp =>
        if sp.isEmpty || (← peek) == '#' || (!flow && ((← get).column : Int) < indent) then
          return (chunks, stop)
        go fuel chunks sp stop
  let (chunks, stop) ← go (s0.text.size + 1) [] [] start
  push (.scalar (String.join chunks) true none none) start stop

def checkPlain : ScanM Bool := do
  let ch ← peek
  if !(isBlankOrEnd ch || "-?:,[]\x7b\x7d#&*!|>'\"%@\x60".toList.contains ch) then return true
  let next ← peek 1
  let flow := (← get).flowLevel != 0
  return !isBlankOrEnd next && (ch == '-' || (!flow && (ch == '?' || ch == ':')))

def fetchMore : ScanM Unit := do
  toNextToken
  dropStaleKeys
  unwindIndent (← get).column
  let ch ← peek
  let s ← get
  let col0 := s.column == 0
  let flow := s.flowLevel != 0
  let blankAfter : ScanM Bool := isBlankOrEnd <$> peek 1
  let documentStart ← if ch == '-' && col0 then markerAhead "---" else pure false
  let documentEnd ← if ch == '.' && col0 then markerAhead "..." else pure false
  let blockEntry ← if ch == '-' then blankAfter else pure false
  let key ← if ch == '?' then (if flow then pure true else blankAfter) else pure false
  let value ← if ch == ':' then (if flow then pure true else blankAfter) else pure false
  if ch == '\x00' then fetchStreamEnd
  else if ch == '%' && col0 then fetchDirective
  else if documentStart then fetchDocumentIndicator .documentStart
  else if documentEnd then fetchDocumentIndicator .documentEnd
  else if ch == '[' then fetchFlowStart .flowSequenceStart
  else if ch == '\x7b' then fetchFlowStart .flowMappingStart
  else if ch == ']' then fetchFlowEnd .flowSequenceEnd
  else if ch == '\x7d' then fetchFlowEnd .flowMappingEnd
  else if ch == ',' then fetchFlowEntry
  else if blockEntry then fetchBlockEntry
  else if key then fetchKey
  else if value then fetchValue
  else if ch == '*' then fetchAnchor true
  else if ch == '&' then fetchAnchor false
  else if ch == '!' then fetchTag
  else if ch == '|' && !flow then fetchBlockScalar false
  else if ch == '>' && !flow then fetchBlockScalar true
  else if ch == '\'' then fetchQuoted false
  else if ch == '"' then fetchQuoted true
  else if ← checkPlain then fetchPlain
  else
    fail (some "while scanning for the next token") none
      s!"found character {Text.quote (String.singleton ch)} that cannot start any token"

def needMore : ScanM Bool := do
  let s ← get
  if s.done then return false
  if s.queue.isEmpty then return true
  dropStaleKeys
  let s ← get
  match (s.keys.map (·.2.tokenNumber)).min? with
  | some n => return n == s.taken
  | none => return false

def fill : ScanM Unit := do
  let rec go : Nat → ScanM Unit
    | 0 => pure ()
    | fuel + 1 => do
      if ← needMore then
        fetchMore
        go fuel
  go (4 * (← get).text.size + 16)

def peekToken : ScanM Token := do
  fill
  match (← get).queue with
  | t :: _ => return t
  | [] => return ⟨.streamEnd, ← mark, ← mark⟩

def nextToken : ScanM Token := do
  fill
  let s ← get
  match s.queue with
  | t :: rest =>
    set { s with queue := rest, taken := s.taken + 1 }
    return t
  | [] => return ⟨.streamEnd, ← mark, ← mark⟩

def check (kinds : List TokenKind) : ScanM Bool := do
  fill
  match (← get).queue with
  | t :: _ => return kinds.any (t.kind.sameSort ·)
  | [] => return false

def start (text : Array Char) (stop : Option (Nat × YamlError)) : Scanner :=
  { text, stop, queue := [⟨.streamStart, {}, {}⟩] }

end Scanner

end AdocLint.Yaml
