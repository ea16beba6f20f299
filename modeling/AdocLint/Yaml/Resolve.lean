import AdocLint.Yaml.Timestamp

/-! Implicit types of plain YAML scalars, by the YAML 1.1 rules. -/

namespace AdocLint.Yaml

def stdTag (name : String) : String := "tag:yaml.org,2002:" ++ name

def isDec (c : Char) : Bool := '0' ≤ c && c ≤ '9'

def dropSign : List Char → List Char
  | '-' :: r => r
  | '+' :: r => r
  | r => r

def sixtyGroups (stop : List Char → Bool) : List Char → Bool
  | ':' :: a :: b :: r =>
    ('0' ≤ a && a ≤ '5' && isDec b && (sixtyGroups stop r || stop r)) ||
      (isDec a && (sixtyGroups stop (b :: r) || stop (b :: r)))
  | [':', a] => isDec a && stop []
  | _ => false

def digitsOrUnderscores (cs : List Char) : Bool := cs.all fun c => isDec c || c == '_'

def exponentOrEnd : List Char → Bool
  | [] => true
  | e :: s :: ds => (e == 'e' || e == 'E') && (s == '-' || s == '+') && !ds.isEmpty && ds.all isDec
  | _ => false

def isFloatWord (cs : List Char) : Bool :=
  let body := dropSign cs
  let afterPoint (r : List Char) : Bool :=
    let frac := r.takeWhile fun c => isDec c || c == '_'
    exponentOrEnd (r.drop frac.length)
  let decimalForm := match body with
    | d :: r =>
      isDec d &&
        (let run := r.takeWhile fun c => isDec c || c == '_'
         match r.drop run.length with
         | '.' :: rest => afterPoint rest
         | _ => false)
    | [] => false
  let pointFirst := match cs with
    | '.' :: d :: r => isDec d && afterPoint r
    | _ => false
  let sixty := match body with
    | d :: r =>
      isDec d &&
        (let run := r.takeWhile fun c => isDec c || c == '_'
         sixtyGroups (fun t => match t with
           | '.' :: rest => digitsOrUnderscores rest
           | _ => false) (r.drop run.length))
    | [] => false
  let infinity := ["inf", "Inf", "INF"].any fun w => body == '.' :: w.toList
  let nan := ["nan", "NaN", "NAN"].any fun w => cs == '.' :: w.toList
  decimalForm || pointFirst || sixty || infinity || nan

def isIntWord (cs : List Char) : Bool :=
  let body := dropSign cs
  match body with
  | '0' :: 'b' :: r => !r.isEmpty && r.all fun c => c == '0' || c == '1' || c == '_'
  | '0' :: 'x' :: r =>
    !r.isEmpty && r.all fun c => isDec c || ('a' ≤ c && c ≤ 'f') || ('A' ≤ c && c ≤ 'F') || c == '_'
  | ['0'] => true
  | '0' :: r => !r.isEmpty && r.all fun c => ('0' ≤ c && c ≤ '7') || c == '_'
  | d :: r =>
    '1' ≤ d && d ≤ '9' &&
      (let run := r.takeWhile fun c => isDec c || c == '_'
       let rest := r.drop run.length
       rest.isEmpty || sixtyGroups List.isEmpty rest)
  | [] => false

def implicitTag (s : String) : String :=
  let cs := s.toList
  let fits (p : List Char → Bool) : Bool :=
    p cs || (cs.getLast? == some '\n' && p cs.dropLast)
  let words (ws : List String) : List Char → Bool := fun t => ws.contains (String.ofList t)
  let first := cs.head?.getD '\x00'
  let starts (firsts : String) : Bool := !cs.isEmpty && firsts.toList.contains first
  let boolWords := ["yes", "Yes", "YES", "no", "No", "NO", "true", "True", "TRUE", "false",
    "False", "FALSE", "on", "On", "ON", "off", "Off", "OFF"]
  if starts "yYnNtTfFoO" && fits (words boolWords) then stdTag "bool"
  else if starts "-+0123456789." && fits isFloatWord then stdTag "float"
  else if starts "-+0123456789" && fits isIntWord then stdTag "int"
  else if starts "<" && fits (words ["<<"]) then stdTag "merge"
  else if (cs.isEmpty || starts "~nN") && fits (words ["~", "null", "Null", "NULL", ""]) then
    stdTag "null"
  else if starts "0123456789" && (readStamp true cs).isSome then stdTag "timestamp"
  else if starts "=" && fits (words ["="]) then stdTag "value"
  else if starts "!&*" && fits (words ["!", "&", "*"]) then stdTag "yaml"
  else stdTag "str"

end AdocLint.Yaml
