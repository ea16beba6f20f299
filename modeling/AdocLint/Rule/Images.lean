import AdocLint.Rule.Basic
import AdocLint.Document
import AdocLint.Text.Blank

/-! The image rule: a block or inline image must name an existing file and give an alternative text
of five characters or more. -/

namespace AdocLint.Images

abbrev Attributes := List (String × String)

def Attributes.set (k v : String) : Attributes → Attributes
  | [] => [(k, v)]
  | (k', v') :: rest => if k' == k then (k', v) :: rest else (k', v') :: Attributes.set k v rest

def splitParts (quoted : Bool) (cur : List Char) : List Char → List String
  | [] => if cur.isEmpty then [] else [String.ofList (Text.trimChars cur.reverse)]
  | c :: cs =>
    if c = '"' then splitParts (!quoted) (c :: cur) cs
    else if c = ',' && !quoted then
      String.ofList (Text.trimChars cur.reverse) :: splitParts quoted [] cs
    else splitParts quoted (c :: cur) cs

def addPart (attrs : Attributes) (i : Nat) (part : String) : Attributes :=
  let cs := part.toList
  if cs.contains '=' then
    let key := cs.takeWhile (· != '=')
    let value := cs.drop (key.length + 1)
    let value := Text.trimCharsOf ['"'] (Text.trimChars value)
    attrs.set (String.ofList (Text.trimChars key)) (String.ofList value)
  else if i = 0 then attrs.set "alt" part
  else attrs

def parseAttributes (s : String) : Attributes :=
  let cs := Text.trimCharsOf ['[', ']'] s.toList
  if cs.isEmpty then []
  else (splitParts false [] cs).zipIdx.foldl (fun acc (p, i) => addPart acc i p) []

def beforeLastClose (seg : List Char) : Option (List Char) :=
  match (seg.zipIdx.filter (·.1 == ']')).getLast? with
  | some (_, j) => some (seg.take j)
  | none => none

def blockImage? (t : List Char) : Option (String × Option String) :=
  if "image::".toList.isPrefixOf t then
    let after := t.drop 7
    let path := after.takeWhile (· != '[')
    if path.isEmpty then none
    else
      let attrs := match after.drop path.length with
        | '[' :: r => (beforeLastClose (r.takeWhile (· != '\n'))).map String.ofList
        | _ => none
      some (String.ofList path, attrs)
  else none

def inlineAt (cs : List Char) : Option (String × Option String × Nat) :=
  let path := cs.takeWhile (· != '[')
  if path.isEmpty then none
  else
    match cs.drop path.length with
    | '[' :: r =>
      let seg := r.takeWhile (· != '\n')
      let body := seg.takeWhile (· != ']')
      if body.length < seg.length then
        some (String.ofList path, some (String.ofList body), path.length + body.length + 2)
      else some (String.ofList path, none, path.length)
    | _ => some (String.ofList path, none, path.length)

def inlineImages : List Char → List (String × Option String)
  | [] => []
  | c :: cs =>
    if "image:".toList.isPrefixOf (c :: cs) then
      match inlineAt ((c :: cs).drop 6) with
      | some (path, attrs, k) => (path, attrs) :: inlineImages ((c :: cs).drop (6 + k))
      | none => inlineImages cs
    else inlineImages cs
termination_by cs => cs.length
decreasing_by all_goals simp only [List.length_drop, List.length_cons]; omega

def isRemote (path : String) : Bool :=
  Text.startsWithAny path ["http://", "https://", "ftp://"]

def imageIssues (sev : Severity) (isFile : String → Bool) (kind path : String)
    (attrs : Attributes) : List (Severity × String) :=
  let file := if isRemote path then [] else
    let p := Text.trim path
    if isFile p then [] else [(sev, "Image file not found: " ++ p)]
  let alt := match attrs.find? (·.1 == "alt") with
    | some (_, a) =>
      if a.isEmpty then [(sev, s!"Missing alt text for {kind} image: {path}")]
      else if a.length < 5 then [(Severity.info, s!"Alt text too short for {kind} image: {path}")]
      else []
    | none => [(sev, s!"Missing alt text for {kind} image: {path}")]
  let required := if kind == "block" && attrs.isEmpty then
    [(sev, "Missing required attributes for block image: " ++ path)] else []
  file ++ alt ++ required

def lineFindings (sev : Severity) (isFile : String → Bool) (i : Nat) (content : String) :
    List Finding :=
  let issues := match blockImage? (Text.trimChars content.toList) with
    | some (path, attrs) => imageIssues sev isFile "block" path (parseAttributes (attrs.getD ""))
    | none => (inlineImages content.toList).flatMap fun ((path, attrs) : String × Option String) =>
        imageIssues sev isFile "inline" path (parseAttributes (attrs.getD ""))
  issues.map fun (s, m) => Finding.atLine "IMG001" s (i + 1) m (.str content)

def localPaths (content : String) : List String :=
  let paths := match blockImage? (Text.trimChars content.toList) with
    | some (path, _) => [path]
    | none => (inlineImages content.toList).map fun (image : String × Option String) => image.1
  (paths.filter fun p => !isRemote p).map Text.trim

def findings (sev : Severity) (isFile : String → Bool) (doc : Document) : List Finding :=
  doc.scanEntries.zipIdx.flatMap fun (e, i) => lineFindings sev isFile i e.text

end AdocLint.Images
