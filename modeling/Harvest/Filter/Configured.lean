import Harvest.Diagnostics
import Harvest.Filter.Registry
import Harvest.Regex.Basic

/-!
# Configured Filters

Filters can be configured by name, each as a regular expression and the text that replaces
its matches. All of them together make a registry, or none does: the first fault in the
order of the names stops the whole.
-/

namespace Harvest.Filter

/-- A filter that replaces every match of an expression. -/
structure ReplaceFilter where
  /-- The regular expression. -/
  pattern : String
  /-- What its matches are replaced by; groups may be referred to. -/
  replacement : String
  deriving DecidableEq, Repr

/-- Why configured filters make no registry. -/
inductive ConfiguredFault where
  /-- The expression of a filter is malformed. Its source and what its reader says are
  implicit. -/
  | pattern (entry : String) {source words : String}
  /-- A filter has no valid name. -/
  | name (fault : InvalidName)
  deriving DecidableEq, Repr

/-- The fault of a filter whose expression is refused. -/
def ConfiguredFault.ofExpression [Diagnostics] (entry source : String) : ConfiguredFault :=
  @pattern entry source (Diagnostics.expression source)

/-- The text of a fault. What the reader of regular expressions says is carried by the fault, and
it is left out where no words are given. -/
def ConfiguredFault.message : ConfiguredFault → String
  | @pattern entry _ words => messageOfChain [s!"filter `{entry}` has an invalid pattern", words]
  | .name fault => fault.message

/-- Registers a configured filter. Its expression is looked at before its name. -/
def Registry.insertConfigured [Diagnostics] (r : Registry) (name : String)
    (f : ReplaceFilter) : Except ConfiguredFault Registry :=
  match Regex.compile? f.pattern with
  | none => .error (.ofExpression name f.pattern)
  | some regex =>
      match r.insert name (regex.replaceAll f.replacement) with
      | .ok r => .ok r
      | .error fault => .error (.name fault)

/-- Registers all configured filters in the order of their names. -/
def Registry.ofConfigured [Diagnostics] (filters : Dictionary ReplaceFilter) :
    Except ConfiguredFault Registry :=
  filters.entries.foldlM (fun r entry => r.insertConfigured entry.1 entry.2) .empty

end Harvest.Filter
