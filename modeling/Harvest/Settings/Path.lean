import Harvest.Number.Integer
import Harvest.Settings.Value

/-!
# Paths to Settings

A path leads to a setting: a key, then keys after points and positions in brackets, such as
`filters.digits.pattern` or `list[0]`. Keys are made of ASCII letters, digits, spaces, `_`
and `-`.

* `Path.read?` reads a path.
* `Value.assign` lays a value over the place that a path leads to. What lies on the way and
  is no table, or no list, gives way to one.
-/

namespace Harvest.Settings

/-- A step of a path. -/
inductive Step where
  /-- To the entry of a table. -/
  | key (name : String)
  /-- To an item of a list, counted from its end when negative. -/
  | index (i : Int)
  deriving DecidableEq, Repr

/-- A path to a setting. -/
structure Path where
  /-- The key of the first step. -/
  first : String
  /-- The steps after it. -/
  rest : List Step
  deriving DecidableEq, Repr

/-- All steps of a path. -/
def Path.steps (p : Path) : List Step :=
  .key p.first :: p.rest

/-! ### Reading paths -/

/-- The characters of a key. -/
def isKeyChar (c : Char) : Bool :=
  c.isAlphanum || c = ' ' || c = '_' || c = '-'

/-- Reads the number between brackets, which may have spaces around it. -/
def readIndex? (cs : List Char) : Option Int :=
  let isSpace := fun c => c = ' ' || c = '\t'
  let inner := ((cs.dropWhile isSpace).reverse.dropWhile isSpace).reverse
  if inner.head? = some '+' then none
  else
    match Number.IntegerType.read ⟨true, .address⟩ (String.ofList inner) with
    | .ok i => some i
    | .error _ => none

/-- What is being read of a path. -/
inductive PathPart where
  /-- A key, its characters latest first. -/
  | key (done : List Char)
  /-- A number in brackets, its characters latest first. -/
  | index (done : List Char)
  /-- Nothing, after a number in brackets. -/
  | between

/-- The step that a finished key makes. -/
def stepOfKey? (done : List Char) : Option Step :=
  if done.isEmpty then none else some (.key (String.ofList done.reverse))

/-- Reads the steps of a path. -/
def readSteps? : PathPart → List Char → Option (List Step)
  | .key done, [] => (stepOfKey? done).map fun step => [step]
  | .index _, [] => none
  | .between, [] => some []
  | .key done, c :: cs =>
      if isKeyChar c then readSteps? (.key (c :: done)) cs
      else if c = '.' then do
        let step ← stepOfKey? done
        return step :: (← readSteps? (.key []) cs)
      else if c = '[' then do
        let step ← stepOfKey? done
        return step :: (← readSteps? (.index []) cs)
      else none
  | .index done, c :: cs =>
      if c = ']' then do
        let i ← readIndex? done.reverse
        return .index i :: (← readSteps? .between cs)
      else readSteps? (.index (c :: done)) cs
  | .between, c :: cs =>
      if c = '.' then readSteps? (.key []) cs
      else if c = '[' then readSteps? (.index []) cs
      else none

/-- Reads a path. -/
def Path.read? (text : String) : Option Path :=
  match readSteps? (.key []) text.toList with
  | some (.key first :: rest) => some ⟨first, rest⟩
  | _ => none

/-- The path that the key of an entry stands for. A key that is not the text of a path is a
path of one step. -/
def Path.ofKey (key : String) : Path :=
  (Path.read? key).getD ⟨key, []⟩

/-! ### Assigning -/

/-- Changes the item at a position, with as many absent items before it as it takes. -/
def changeItem (change : Value → Value) : (position : Nat) → List Value → List Value
  | 0, [] => [change .absent]
  | 0, v :: vs => change v :: vs
  | n + 1, [] => .absent :: changeItem change n []
  | n + 1, v :: vs => v :: changeItem change n vs

/-- The position that an index stands for in a list of the given length. An index before
the start stands for the start. -/
def positionOf (i : Int) (length : Nat) : Nat :=
  if 0 ≤ i then i.toNat else (length + i).toNat

/-- Lays a value over the place that steps lead to. An item of a list is replaced as it
is. -/
def Value.assignSteps (incoming : Value) : List Step → Value → Value
  | [], base => incoming.layOver base
  | .key name :: rest, base =>
      .table (changeEntry (Text.lower name) (incoming.assignSteps rest) base.entries)
  | [.index i], base =>
      .list (changeItem (fun _ => incoming) (positionOf i base.items.length) base.items)
  | .index i :: rest, base =>
      .list (changeItem (incoming.assignSteps rest) (positionOf i base.items.length) base.items)

/-- Lays a value over the place that a path leads to. -/
def Value.assign (base : Value) (path : Path) (incoming : Value) : Value :=
  incoming.assignSteps path.steps base

end Harvest.Settings
