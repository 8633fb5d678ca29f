import Harvest.Dictionary
import Harvest.Filter.Builtin
import Harvest.Filter.Name

/-!
# Registries of Filters

A registry holds the filters that belong to one pattern, under valid names. A name is
looked up in the registry first and among the builtins second, so that a registered filter
hides the builtin of its name.
-/

namespace Harvest.Filter

/-- The filters of a pattern by name. -/
structure Registry where
  /-- The filters. -/
  filters : Dictionary (String → String)

namespace Registry

/-- The registry without filters. -/
def empty : Registry := ⟨Dictionary.empty⟩

/-- Registers a filter, in the place of an earlier one of that name. A name that is not
valid is refused. -/
def insert (r : Registry) (name : String) (filter : String → String) :
    Except InvalidName Registry :=
  if isName name then .ok ⟨r.filters.insert name filter⟩ else .error ⟨name⟩

/-- Registers all filters of another registry. -/
def insertAll (r other : Registry) : Registry :=
  ⟨r.filters.insertAll other.filters⟩

/-- The filter that a name calls. -/
def resolve? (r : Registry) (name : String) : Option (String → String) :=
  match r.filters.get? name with
  | some filter => some filter
  | none => builtin? name

/-- The number of registered filters. -/
def size (r : Registry) : Nat :=
  r.filters.size

/-- The registered names, in ascending order. -/
def names (r : Registry) : List String :=
  r.filters.names

/-- The registered names as a text. -/
def describe (r : Registry) : String :=
  "Filters \x7b names: [" ++ ", ".intercalate (r.names.map Text.quoted) ++ "] \x7d"

/-- Registers filters one after the other, stopping at the first invalid name. -/
def ofList (filters : List (String × (String → String))) : Except InvalidName Registry :=
  filters.foldlM (fun r f => r.insert f.1 f.2) empty

end Registry

end Harvest.Filter
