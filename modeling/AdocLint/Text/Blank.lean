/-! Plain text: blank characters, trimming, cutting into lines at line breaks, and the searches that
several rules share. -/

namespace AdocLint.Text

def isBlank (c : Char) : Bool :=
  let n := c.toNat
  (0x09 ≤ n && n ≤ 0x0D) || (0x1C ≤ n && n ≤ 0x20) || n == 0x85 || n == 0xA0 ||
    n == 0x1680 || (0x2000 ≤ n && n ≤ 0x200A) || n == 0x2028 || n == 0x2029 ||
    n == 0x202F || n == 0x205F || n == 0x3000

def dropBlanksEnd (cs : List Char) : List Char :=
  (cs.reverse.dropWhile isBlank).reverse

def trimChars (cs : List Char) : List Char :=
  dropBlanksEnd (cs.dropWhile isBlank)

def trim (s : String) : String :=
  String.ofList (trimChars s.toList)

def trimStart (s : String) : String :=
  String.ofList (s.toList.dropWhile isBlank)

def trimEnd (s : String) : String :=
  String.ofList (dropBlanksEnd s.toList)

def isBlankText (s : String) : Bool :=
  s.toList.all isBlank

def trimCharsOf (set : List Char) (cs : List Char) : List Char :=
  ((cs.dropWhile (· ∈ set)).reverse.dropWhile (· ∈ set)).reverse

def isLineBreak (c : Char) : Bool :=
  let n := c.toNat
  (0x0A ≤ n && n ≤ 0x0D) || (0x1C ≤ n && n ≤ 0x1E) || n == 0x85 || n == 0x2028 || n == 0x2029

def linesFrom (cur : List Char) : List Char → List (List Char)
  | [] => if cur.isEmpty then [] else [cur.reverse]
  | '\r' :: '\n' :: rest => cur.reverse :: linesFrom [] rest
  | c :: rest =>
    if isLineBreak c then cur.reverse :: linesFrom [] rest else linesFrom (c :: cur) rest

def lines (s : String) : List String :=
  (linesFrom [] s.toList).map String.ofList

def unifyNewlines : List Char → List Char
  | [] => []
  | '\r' :: '\n' :: rest => '\n' :: unifyNewlines rest
  | '\r' :: rest => '\n' :: unifyNewlines rest
  | c :: rest => c :: unifyNewlines rest

theorem lines_empty : lines "" = [] := rfl

end AdocLint.Text

namespace AdocLint.Text

def blanksThenText (t : List Char) : Bool :=
  let full := if t.getLast? == some '\n' then t.length - 1 else t.length
  let i := min (t.takeWhile isBlank).length (full - 1)
  1 ≤ i && !((t.drop i).take (full - i)).contains '\n'

def macroAt (name : List Char) (cs : List Char) : Bool :=
  name.isPrefixOf cs &&
    let r := cs.drop name.length
    let target := r.takeWhile (· != '[')
    !target.isEmpty && target.length < r.length

def hasMacro (name : List Char) : List Char → Bool
  | [] => false
  | c :: cs => macroAt name (c :: cs) || hasMacro name cs

theorem blanksThenText_nil : blanksThenText [] = false := rfl

def hasInfix (pat : List Char) : List Char → Bool
  | [] => pat.isEmpty
  | c :: cs => pat.isPrefixOf (c :: cs) || hasInfix pat cs

def contains (s pat : String) : Bool := hasInfix pat.toList s.toList

def startsWithAny (s : String) (prefixes : List String) : Bool :=
  prefixes.any fun p => s.startsWith p

theorem hasInfix_nil (cs : List Char) : hasInfix [] cs = true := by
  cases cs <;> simp [hasInfix]

end AdocLint.Text
