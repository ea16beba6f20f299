import AdocLint.Yaml.Scanner
import AdocLint.Yaml.Resolve

/-! The YAML parser: tokens into a graph of nodes, with anchors, aliases, tags and directives. -/

namespace AdocLint.Yaml

inductive Node where
  | scalar (tag : String) (value : String) (codes : Option (List Nat)) (start : Mark)
  | sequence (tag : String) (items : List Nat) (start : Mark)
  | mapping (tag : String) (entries : List (Nat × Nat)) (start : Mark)
  deriving Inhabited, Repr

def Node.start : Node → Mark
  | .scalar _ _ _ m => m
  | .sequence _ _ m => m
  | .mapping _ _ m => m

def Node.tag : Node → String
  | .scalar t _ _ _ => t
  | .sequence t _ _ => t
  | .mapping t _ _ => t

def Node.withTag (t : String) : Node → Node
  | .scalar _ v c m => .scalar t v c m
  | .sequence _ xs m => .sequence t xs m
  | .mapping _ es m => .mapping t es m

def Node.kindName : Node → String
  | .scalar .. => "scalar"
  | .sequence .. => "sequence"
  | .mapping .. => "mapping"

def standardHandles : List (String × String) := [("!", "!"), ("!!", "tag:yaml.org,2002:")]

structure Parsing where
  scanner : Scanner
  nodes : Array Node := #[]
  anchors : List (String × Nat) := []
  handles : List (String × String) := standardHandles
  deriving Inhabited

abbrev ParseM := StateT Parsing (Except YamlError)

namespace Parsing

def scan (m : ScanM α) : ParseM α := fun st => do
  let (a, sc) ← m st.scanner
  pure (a, { st with scanner := sc })

def peek : ParseM Token := scan Scanner.peekToken

def next : ParseM Token := scan Scanner.nextToken

def check (kinds : List TokenKind) : ParseM Bool := scan (Scanner.check kinds)

def failAt (context : Option String) (contextMark : Option Mark) (problem : String) (m : Mark) :
    ParseM α :=
  throw (.located { context, contextMark, problem, problemMark := some m })

def add (n : Node) : ParseM Nat := do
  let st ← get
  set { st with nodes := st.nodes.push n }
  return st.nodes.size

def setNode (i : Nat) (n : Node) : ParseM Unit :=
  modify fun st => { st with nodes := st.nodes.setIfInBounds i n }

def empty (m : Mark) : ParseM Nat := add (.scalar (stdTag "null") "" none m)

def deepestLevel : Nat := 489

def reach (level : Nat) : ParseM Unit :=
  if level > deepestLevel then throw .nestedTooDeeply else pure ()

def emptyAt (level : Nat) (m : Mark) : ParseM Nat := do
  reach level
  empty m

def blockEnders : List TokenKind := [.blockEntry, .key, .value, .blockEnd]

def found : ParseM (String × Mark) := do
  let t ← peek
  return (Text.quote t.kind.id, t.start)

mutual

def node (block indentless : Bool) (level : Nat) : Nat → ParseM Nat
  | 0 => failAt none none "document nested too deeply" {}
  | fuel + 1 => do
    reach level
    if ← check [.alias ""] then
      let t ← next
      let name := match t.kind with
        | .alias n => n
        | _ => ""
      match (← get).anchors.lookup name with
      | some i => return i
      | none => failAt none none s!"found undefined alias {Text.quote name}" t.start
    let mut anchor : Option String := none
    let mut tag : Option (Option String × String) := none
    let mut startMark : Option Mark := none
    let mut tagMark : Option Mark := none
    if ← check [.anchor ""] then
      let t ← next
      startMark := some t.start
      anchor := match t.kind with
        | .anchor n => some n
        | _ => none
      if ← check [.tag none ""] then
        let t ← next
        tagMark := some t.start
        tag := match t.kind with
          | .tag h s => some (h, s)
          | _ => none
    else if ← check [.tag none ""] then
      let t ← next
      startMark := some t.start
      tagMark := some t.start
      tag := match t.kind with
        | .tag h s => some (h, s)
        | _ => none
      if ← check [.anchor ""] then
        let t ← next
        anchor := match t.kind with
          | .anchor n => some n
          | _ => none
    let start ← match startMark with
      | some m => pure m
      | none => pure (← peek).start
    let tagName : Option String ← match tag with
      | none => pure none
      | some (none, suffix) => pure (some suffix)
      | some (some h, suffix) =>
        match (← get).handles.lookup h with
        | some pfx => pure (some (pfx ++ suffix))
        | none =>
          let problem := s!"found undefined tag handle {Text.quote h}"
          failAt (some "while parsing a node") (some start) problem (tagMark.getD start)
    let implicit := tagName.isNone || tagName == some "!"
    -- the anchor is checked once the node's kind is known
    let register (i : Nat) : ParseM Unit := do
      match anchor with
      | some a =>
        match (← get).anchors.lookup a with
        | some first =>
          let shown := Text.quote a
          let firstMark := ((← get).nodes.getD first default).start
          throw (.located
            { context := some s!"found duplicate anchor {shown}; first occurrence",
              contextMark := some firstMark, problem := "second occurrence",
              problemMark := some start })
        | none => modify fun st => { st with anchors := st.anchors ++ [(a, i)] }
      | none => pure ()
    let collectionTag (default : String) : String :=
      if implicit then default else tagName.getD default
    if indentless && (← check [.blockEntry]) then
      let i ← add (.sequence (collectionTag (stdTag "seq")) [] start)
      register i
      let items ← indentlessItems (level + 1) fuel []
      setNode i (.sequence (collectionTag (stdTag "seq")) items start)
      return i
    else if ← check [.scalar "" false none none] then
      let t ← next
      let (value, plain, codes) := match t.kind with
        | .scalar v p _ c => (v, p, c)
        | _ => ("", false, none)
      let resolved :=
        if (plain && tagName.isNone) || tagName == some "!" then implicitTag value
        else if tagName.isNone then stdTag "str"
        else tagName.getD (stdTag "str")
      let i ← add (.scalar resolved value codes start)
      register i
      return i
    else if ← check [.flowSequenceStart] then
      let i ← add (.sequence (collectionTag (stdTag "seq")) [] start)
      register i
      let t ← next
      let items ← flowSequenceItems t.start (level + 1) fuel true []
      setNode i (.sequence (collectionTag (stdTag "seq")) items start)
      return i
    else if ← check [.flowMappingStart] then
      let i ← add (.mapping (collectionTag (stdTag "map")) [] start)
      register i
      let t ← next
      let entries ← flowMappingEntries t.start (level + 1) fuel true []
      setNode i (.mapping (collectionTag (stdTag "map")) entries start)
      return i
    else if block && (← check [.blockSequenceStart]) then
      let i ← add (.sequence (collectionTag (stdTag "seq")) [] start)
      register i
      let t ← next
      let items ← blockSequenceItems t.start (level + 1) fuel []
      setNode i (.sequence (collectionTag (stdTag "seq")) items start)
      return i
    else if block && (← check [.blockMappingStart]) then
      let i ← add (.mapping (collectionTag (stdTag "map")) [] start)
      register i
      let t ← next
      let entries ← blockMappingEntries t.start (level + 1) fuel []
      setNode i (.mapping (collectionTag (stdTag "map")) entries start)
      return i
    else if anchor.isSome || tagName.isSome then
      let resolved := if implicit then implicitTag "" else tagName.getD (stdTag "str")
      let i ← add (.scalar resolved "" none start)
      register i
      return i
    else
      let (id, m) ← found
      let what := if block then "block" else "flow"
      failAt (some s!"while parsing a {what} node") (some start)
        s!"expected the node content, but found {id}" m
termination_by structural fuel => fuel

def blockSequenceItems (open_ : Mark) (level : Nat) : Nat → List Nat → ParseM (List Nat)
  | 0, acc => pure acc
  | fuel + 1, acc => do
    if ← check [.blockEntry] then
      let t ← next
      let item ← if ← check [.blockEntry, .blockEnd] then emptyAt level t.stop
        else node true false level fuel
      blockSequenceItems open_ level fuel (acc ++ [item])
    else if ← check [.blockEnd] then
      discard next
      pure acc
    else
      let (id, m) ← found
      failAt (some "while parsing a block collection") (some open_)
        s!"expected <block end>, but found {id}" m
termination_by structural fuel _ => fuel

def indentlessItems (level : Nat) : Nat → List Nat → ParseM (List Nat)
  | 0, acc => pure acc
  | fuel + 1, acc => do
    if ← check [.blockEntry] then
      let t ← next
      let item ← if ← check blockEnders then emptyAt level t.stop
        else node true false level fuel
      indentlessItems level fuel (acc ++ [item])
    else pure acc
termination_by structural fuel _ => fuel

def blockMappingEntries (open_ : Mark) (level : Nat) :
    Nat → List (Nat × Nat) → ParseM (List (Nat × Nat))
  | 0, acc => pure acc
  | fuel + 1, acc => do
    if ← check [.key] then
      let t ← next
      let k ← if ← check [.key, .value, .blockEnd] then emptyAt level t.stop
        else node true true level fuel
      let v ← if ← check [.value] then do
          let t ← next
          if ← check [.key, .value, .blockEnd] then emptyAt level t.stop
          else node true true level fuel
        else emptyAt level (← peek).start
      blockMappingEntries open_ level fuel (acc ++ [(k, v)])
    else if ← check [.blockEnd] then
      discard next
      pure acc
    else
      let (id, m) ← found
      failAt (some "while parsing a block mapping") (some open_)
        s!"expected <block end>, but found {id}" m
termination_by structural fuel _ => fuel

def flowSequenceItems (open_ : Mark) (level : Nat) : Nat → Bool → List Nat → ParseM (List Nat)
  | 0, _, acc => pure acc
  | fuel + 1, first, acc => do
    if ← check [.flowSequenceEnd] then
      discard next
      return acc
    if !first then
      if ← check [.flowEntry] then discard next
      else
        let t ← peek
        failAt (some "while parsing a flow sequence") (some open_)
          s!"expected ',' or ']', but got {Text.quote t.kind.id}" t.start
    if ← check [.key] then
      let kt ← next
      reach level
      let pair ← add (.mapping (stdTag "map") [] kt.start)
      let k ← if ← check [.value, .flowEntry, .flowSequenceEnd] then emptyAt (level + 1) kt.stop
        else node false false (level + 1) fuel
      let v ← if ← check [.value] then do
          let t ← next
          if ← check [.flowEntry, .flowSequenceEnd] then emptyAt (level + 1) t.stop
          else node false false (level + 1) fuel
        else emptyAt (level + 1) (← peek).start
      setNode pair (.mapping (stdTag "map") [(k, v)] kt.start)
      flowSequenceItems open_ level fuel false (acc ++ [pair])
    else if ← check [.flowSequenceEnd] then
      discard next
      return acc
    else
      let item ← node false false level fuel
      flowSequenceItems open_ level fuel false (acc ++ [item])
termination_by structural fuel _ _ => fuel

def flowMappingEntries (open_ : Mark) (level : Nat) :
    Nat → Bool → List (Nat × Nat) → ParseM (List (Nat × Nat))
  | 0, _, acc => pure acc
  | fuel + 1, first, acc => do
    if ← check [.flowMappingEnd] then
      discard next
      return acc
    if !first then
      if ← check [.flowEntry] then discard next
      else
        let t ← peek
        failAt (some "while parsing a flow mapping") (some open_)
          s!"expected ',' or '\x7d', but got {Text.quote t.kind.id}" t.start
    if ← check [.key] then
      let kt ← next
      let k ← if ← check [.value, .flowEntry, .flowMappingEnd] then emptyAt level kt.stop
        else node false false level fuel
      let v ← if ← check [.value] then do
          let t ← next
          if ← check [.flowEntry, .flowMappingEnd] then emptyAt level t.stop
          else node false false level fuel
        else emptyAt level (← peek).start
      flowMappingEntries open_ level fuel false (acc ++ [(k, v)])
    else if ← check [.flowMappingEnd] then
      discard next
      return acc
    else
      let k ← node false false level fuel
      let v ← emptyAt level (← peek).start
      flowMappingEntries open_ level fuel false (acc ++ [(k, v)])
termination_by structural fuel _ _ => fuel

end

def explicitStart : ParseM Unit := do
  let rec directives : Nat → Bool → List (String × String) → ParseM (List (String × String))
    | 0, _, hs => pure hs
    | f + 1, seenVersion, hs => do
      if ← check [.directive (.other "")] then
        let t ← next
        match t.kind with
        | .directive (.version major _) =>
          if seenVersion then failAt none none "found duplicate YAML directive" t.start
          if major != 1 then
            failAt none none "found incompatible YAML document (version 1.* is required)" t.start
          directives f true hs
        | .directive (.tagPrefix h pfx) =>
          if (hs.lookup h).isSome then
            failAt none none s!"duplicate tag handle {Text.quote h}" t.start
          directives f seenVersion (hs ++ [(h, pfx)])
        | _ => directives f seenVersion hs
      else pure hs
  let hs ← directives ((← get).scanner.text.size + 1) false []
  let defaults := standardHandles.filter fun (h, _) => (hs.lookup h).isNone
  modify fun st => { st with handles := hs ++ defaults }
  if !(← check [.documentStart]) then
    let t ← peek
    failAt none none s!"expected '<document start>', but found {Text.quote t.kind.id}" t.start
  discard next

def skipDocumentEnds : Nat → ParseM Unit
  | 0 => pure ()
  | f + 1 => do
    if ← check [.documentEnd] then
      discard next
      skipDocumentEnds f

def document : ParseM (Option Nat) := do
  let fuel := 4 * (← get).scanner.text.size + 16
  discard next
  let root ← if !(← check [.directive (.other ""), .documentStart, .streamEnd]) then
      some <$> node true false 1 fuel
    else do
      skipDocumentEnds fuel
      if ← check [.streamEnd] then pure none
      else
        explicitStart
        if ← check [.directive (.other ""), .documentStart, .documentEnd, .streamEnd] then
          some <$> empty (← peek).start
        else some <$> node true false 1 fuel
  match root with
  | none => return none
  | some n =>
    if ← check [.documentEnd] then discard next
    skipDocumentEnds fuel
    if ← check [.streamEnd] then return some n
    let t ← peek
    let rootMark := ((← get).nodes.getD n default).start
    explicitStart
    throw (.located
      { context := some "expected a single document in the stream",
        contextMark := some rootMark, problem := "but found another document",
        problemMark := some t.start })

end Parsing

end AdocLint.Yaml
