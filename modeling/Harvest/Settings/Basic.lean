import Harvest.Filter.Configured
import Harvest.Number.Shortest
import Harvest.Settings.Value

/-!
# Settings

What can be set: how records are written out, what is logged, and filters by name. Values
are taken generously, a number for a text or the word `yes` for a truth value, but not
every kind of value is taken everywhere.

* `Settings.ofValue` reads the settings from a table; what it does not know it ignores.
-/

namespace Harvest

/-- How the records of an extraction are gathered. -/
inductive OutputMode where
  /-- One record for every match. -/
  | list
  /-- All matches in one record. -/
  | single
  deriving DecidableEq, Repr

/-- The settings of a run. -/
structure Settings where
  /-- Whether the output is indented. -/
  pretty : Bool
  /-- How records are gathered. -/
  mode : OutputMode
  /-- Which messages are logged. -/
  logging : String
  /-- The configured filters. -/
  filters : Dictionary Filter.ReplaceFilter

namespace Settings

/-- Why there are no settings. -/
inductive Fault where
  /-- A key is not the text of a path. -/
  | malformedKey (key : String)
  /-- A configuration file is missing. -/
  | missingFile
  /-- A configuration file is malformed. -/
  | malformedFile
  /-- A setting does not take values of this kind. -/
  | wrongKind
  /-- A group of settings has not the right shape, or a choice is unknown. -/
  | wrongShape
  deriving DecidableEq, Repr

/-! ### Single values -/

/-- The truth value that a word stands for. -/
def truthOfWord? (s : String) : Option Bool :=
  let word := Text.lower s
  if ["1", "true", "on", "yes"].contains word then some true
  else if ["0", "false", "off", "no"].contains word then some false
  else none

/-- Whether a number is zero. -/
def isZero : Number.Binary → Bool
  | .finite _ 0 _ => true
  | _ => false

/-- Takes a value as a truth value. All numbers but zero are true. -/
def Value.toBoolean : Value → Except Fault Bool
  | .boolean b => .ok b
  | .integer n => .ok (n ≠ 0)
  | .float x => .ok (!isZero x)
  | .text s =>
      match truthOfWord? s with
      | some b => .ok b
      | none => .error .wrongKind
  | _ => .error .wrongKind

/-- Takes a value as a text. -/
def Value.toText : Value → Except Fault String
  | .text s => .ok s
  | .boolean b => .ok (if b then "true" else "false")
  | .integer n => .ok (toString n)
  | .float x => .ok (x.positional .double)
  | _ => .error .wrongKind

/-- The mode that a name stands for, in any case. -/
def modeOfName (name : String) : Except Fault OutputMode :=
  let word := Text.lower name
  if word = "list" then .ok .list
  else if word = "single" then .ok .single
  else .error .wrongShape

/-- Takes a value as a mode: its name, or a table with its name as the only key. -/
def Value.toMode : Value → Except Fault OutputMode
  | .text name => modeOfName name
  | .table [(name, _)] => modeOfName name
  | _ => .error .wrongShape

/-! ### Groups -/

/-- The member of a group: by its name in a table, by its position in a list. -/
def Value.member? (position : Nat) (name : String) : Value → Except Fault (Option Value)
  | .table entries => .ok (entries.lookup name)
  | .list items => .ok items[position]?
  | _ => .error .wrongShape

/-- A member that a group has to have. -/
def Value.member (position : Nat) (name : String) (v : Value) : Except Fault Value :=
  match v.member? position name with
  | .ok (some w) => .ok w
  | .ok none => .error .wrongShape
  | .error fault => .error fault

/-- Takes a value as a configured filter. Without a replacement, matches are removed. -/
def Value.toReplaceFilter (v : Value) : Except Fault Filter.ReplaceFilter := do
  let replacement ← match ← v.member? 1 "replacement" with
    | some w => w.toText
    | none => pure ""
  let pattern ← (← v.member 0 "pattern").toText
  pure ⟨pattern, replacement⟩

/-- Takes a value as configured filters. -/
def Value.toFilters : Value → Except Fault (Dictionary Filter.ReplaceFilter)
  | .table entries => do
      let filters ← entries.mapM fun (name, v) => do
        let filter ← v.toReplaceFilter
        pure (name, filter)
      pure (Dictionary.ofList filters)
  | _ => .error .wrongShape

/-- Reads the settings from a table. -/
def ofValue (v : Value) : Except Fault Settings := do
  let output ← v.member 0 "output"
  let pretty ← (← output.member 0 "pretty").toBoolean
  let mode ← (← output.member 1 "mode").toMode
  let logging ← (← (← v.member 1 "logging").member 0 "filter").toText
  let filters ← match ← v.member? 2 "filters" with
    | some w => w.toFilters
    | none => pure Dictionary.empty
  pure ⟨pretty, mode, logging, filters⟩

end Settings

end Harvest
