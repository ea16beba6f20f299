import AdocLint.Text.Printable

/-! What a command line asks the distribution script to run: the settings, the commands in order and
the options given to each. -/

namespace AdocLint.Package

inductive Ending where
  | returned
  | stopped (message : String)
  deriving DecidableEq, Repr

structure Outcome where
  stdout : String
  ending : Ending

inductive OptionValue where
  | text (s : String)
  | count (n : Nat)
  | words (ws : List String)
  deriving DecidableEq, Repr, Inhabited

def OptionValue.isSet : OptionValue → Bool
  | .text s => !s.isEmpty
  | .count n => n != 0
  | .words ws => !ws.isEmpty

def OptionValue.literal : OptionValue → String
  | .text s => Text.quote s
  | .count n => toString n
  | .words ws => "[" ++ ", ".intercalate (ws.map Text.quote) ++ "]"

abbrev OptionTable := List (String × OptionValue)

def OptionTable.set (t : OptionTable) (attr : String) (v : OptionValue) : OptionTable :=
  if t.any (·.1 == attr) then t.map fun (a, w) => if a == attr then (a, v) else (a, w)
  else t ++ [(attr, v)]

def OptionTable.text? (t : OptionTable) (attr : String) : Option String :=
  match t.lookup attr with
  | some (.text s) => some s
  | _ => none

def OptionTable.isSet (t : OptionTable) (attr : String) : Bool :=
  (t.lookup attr).any (·.isSet)

structure Settings where
  verbosity : Nat := 1
  dryRun : Bool := false
  commandPackages : Option String := none
  deriving Inhabited

structure Plan where
  settings : Settings
  commands : List String
  options : List (String × OptionTable)
  deriving Inhabited

def Plan.optionsOf (p : Plan) (cmd : String) : OptionTable :=
  (p.options.lookup cmd).getD []

def mergeOptions (tables : List (String × OptionTable)) (cmd : String) (t : OptionTable) :
    List (String × OptionTable) :=
  if tables.any (·.1 == cmd) then
    tables.map fun (c, u) => if c == cmd then (c, t.foldl (fun acc (a, v) => acc.set a v) u)
      else (c, u)
  else tables ++ [(cmd, t)]

end AdocLint.Package
