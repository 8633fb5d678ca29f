import Harvest.Text.Letter
import Harvest.Text.Quoted

/-!
# Names of Filters

A filter is called by a name: a letter or an underscore, followed by letters, numerals and
underscores, of any script.
-/

namespace Harvest.Filter

/-- Whether a character may begin a name. -/
def isNameStart (c : Char) : Bool :=
  c == '_' || Text.isLetter c

/-- Whether a character may follow in a name. -/
def isNameRest (c : Char) : Bool :=
  c == '_' || Text.isAlphanumeric c

/-- Whether a text is the name of a filter. -/
def isName (name : String) : Bool :=
  match name.toList with
  | [] => false
  | c :: cs => isNameStart c && cs.all isNameRest

/-- A name that cannot be registered. -/
structure InvalidName where
  /-- The name. -/
  name : String
  deriving DecidableEq, Repr

/-- The text of the error. -/
def InvalidName.message (e : InvalidName) : String :=
  s!"filter name {Text.quoted e.name} is not a valid identifier"

end Harvest.Filter
