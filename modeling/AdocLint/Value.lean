import AdocLint.Text.Printable
import AdocLint.Binary64
import AdocLint.Calendar

/-! Configuration values, and the graphs in which loaded containers may be shared or hold
themselves. -/

namespace AdocLint

inductive Value where
  | none
  | bool (b : Bool)
  | int (n : Int)
  | float (x : Float)
  | str (s : String)
  | codes (points : List Nat)
  | bytes (data : List UInt8)
  | date (d : Date)
  | moment (t : Moment)
  | list (items : List Value)
  | tuple (items : List Value)
  | set (members : List Value)
  | map (entries : List (Value × Value))
  | ref (id : Nat)
  deriving Inhabited, Repr

structure Graph where
  store : Array Value := #[]
  root : Value
  deriving Inhabited, Repr

namespace Value

def toGraph (v : Value) : Graph := ⟨#[], v⟩

def kindName : Value → String
  | .none => "NoneType"
  | .bool _ => "bool"
  | .int _ => "int"
  | .float _ => "float"
  | .str _ => "str"
  | .codes _ => "str"
  | .bytes _ => "bytes"
  | .date _ => "datetime.date"
  | .moment _ => "datetime.datetime"
  | .list _ => "list"
  | .tuple _ => "tuple"
  | .set _ => "set"
  | .map _ => "dict"
  | .ref _ => "object"

def truthy : Value → Bool
  | .none => false
  | .bool b => b
  | .int n => n != 0
  | .float x => !(x == 0.0)
  | .str s => !s.isEmpty
  | .codes cs => !cs.isEmpty
  | .bytes bs => !bs.isEmpty
  | .date _ => true
  | .moment _ => true
  | .list xs => !xs.isEmpty
  | .tuple xs => !xs.isEmpty
  | .set xs => !xs.isEmpty
  | .map es => !es.isEmpty
  | .ref _ => true

def isHashable : Value → Bool
  | .list _ => false
  | .set _ => false
  | .map _ => false
  | _ => true

def number? : Value → Option (Int ⊕ Float)
  | .bool b => some (.inl (if b then 1 else 0))
  | .int n => some (.inl n)
  | .float x => some (.inr x)
  | _ => Option.none

def same (a b : Value) : Bool :=
  match a, b with
  | .none, .none => true
  | .str s, .str t => s == t
  | .codes p, .codes q => p == q
  | .bytes p, .bytes q => p == q
  | .date d, .date e => d == e
  | .moment s, .moment t => s.same t
  | .ref i, .ref j => i == j
  | _, _ =>
    match a.number?, b.number? with
    | some (.inl m), some (.inl n) => m == n
    | some (.inl m), some (.inr y) => Binary64.equalsInt m y
    | some (.inr x), some (.inl n) => Binary64.equalsInt n x
    | some (.inr x), some (.inr y) => x == y
    | _, _ => false

def lookup? (k : String) : Value → Option Value
  | .map es => (es.find? (fun e => same e.1 (.str k))).map (·.2)
  | _ => Option.none

def setEntry (k v : Value) : List (Value × Value) → List (Value × Value)
  | [] => [(k, v)]
  | (k', v') :: rest => if same k' k then (k', v) :: rest else (k', v') :: setEntry k v rest

def ofEntries (es : List (Value × Value)) : Value :=
  .map (es.foldl (fun acc e => setEntry e.1 e.2 acc) [])

def addMember (members : List Value) (v : Value) : List Value :=
  if members.any (same · v) then members else members ++ [v]

end Value

namespace Graph

def resolve (g : Graph) : Value → Value
  | .ref i => g.store.getD i .none
  | v => v

def kindName (g : Graph) (v : Value) : String := (g.resolve v).kindName

def truthy (g : Graph) (v : Value) : Bool := (g.resolve v).truthy

def lookup? (g : Graph) (k : String) (v : Value) : Option Value := (g.resolve v).lookup? k

end Graph

end AdocLint
