import AdocLint.Rule.Basic
import AdocLint.Document

/-! Delimited blocks: each opening delimiter must be closed, and must have blank lines around it
unless the neighbour starts with `=`. -/

namespace AdocLint.Blocks

def blockName? : String → Option String
  | "----" => some "listing block"
  | "====" => some "example block"
  | "****" => some "sidebar block"
  | "...." => some "literal block"
  | "____" => some "quote block"
  | "|===" => some "table block"
  | "////" => some "comment block"
  | "++++" => some "passthrough block"
  | _ => none

def closedLater (delimiter : String) : List Entry → Except Fault Bool
  | [] => .ok false
  | e :: rest => do
    let t ← e.trimmed
    if t == delimiter then pure true else closedLater delimiter rest

def unterminatedFrom (opened : List String) (i : Nat) : List Entry → Except Fault (List Finding)
  | [] => .ok []
  | .line s :: rest => do
    let t := Text.trim s
    match blockName? t with
    | none => unterminatedFrom opened (i + 1) rest
    | some name =>
      if opened.contains t then unterminatedFrom (opened.erase t) (i + 1) rest
      else
        let closed ← closedLater t rest
        let later ← unterminatedFrom (t :: opened) (i + 1) rest
        pure ((if closed then [] else
          [Finding.atLine "BLOCK001" .error (i + 1) s!"Unterminated {name} starting" (.str s)]) ++
          later)
  | _ :: rest => unterminatedFrom opened (i + 1) rest

def unterminatedFindings (lines : List Entry) : Except Fault (List Finding) :=
  unterminatedFrom [] 0 lines

def crowds (t : String) : Bool := !t.isEmpty && !t.startsWith "="

def spacingFrom (opened : List String) (prev : Option Entry) (i : Nat) :
    List Entry → Except Fault (List Finding)
  | [] => .ok []
  | e :: rest => do
    match e with
    | .line s =>
      let t := Text.trim s
      if (blockName? t).isNone then spacingFrom opened (some e) (i + 1) rest
      else if opened.contains t then
        let here ← match rest with
          | n :: _ => do
            let nt ← n.trimmed
            pure (if crowds nt then
              [Finding.atLine "BLOCK002" .warning (i + 2) "Block should be followed by a blank line"
                (.str n.text)] else [])
          | [] => pure []
        let later ← spacingFrom (opened.erase t) (some e) (i + 1) rest
        pure (here ++ later)
      else
        let here ← match prev with
          | some p => do
            let pt ← p.trimmed
            pure (if crowds pt then
              [Finding.atLine "BLOCK002" .warning (i + 1) "Block should be preceded by a blank line"
                (.str s)] else [])
          | none => pure []
        let later ← spacingFrom (t :: opened) (some e) (i + 1) rest
        pure (here ++ later)
    | _ => spacingFrom opened (some e) (i + 1) rest

def spacingFindings (lines : List Entry) : Except Fault (List Finding) :=
  spacingFrom [] none 0 lines

end AdocLint.Blocks
