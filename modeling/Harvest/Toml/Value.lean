import Harvest.Number.Binary
import Harvest.Toml.Datetime

/-!
# Values of Configuration Files

A configuration file is a table of named values. A table remembers how it came into the
file, because that decides whether more entries may be added to it later on.
-/

namespace Harvest.Toml

/-- How a table comes into a file. -/
inductive Origin where
  /-- It has a header of its own, or is the file itself. -/
  | header
  /-- It lies on the way to the table of a header. -/
  | implied
  /-- It lies on the way to the entry of a dotted key. -/
  | dotted
  /-- It is written out as a value. -/
  | inline
  deriving DecidableEq, Repr

/-- A value of a configuration file. -/
inductive Value where
  /-- A text. -/
  | text (s : String)
  /-- An integer. -/
  | integer (n : Int)
  /-- A number with a fraction or an exponent, an infinity, or none. -/
  | float (x : Number.Binary)
  /-- A truth value. -/
  | boolean (b : Bool)
  /-- A date, a time, or both. -/
  | datetime (m : Datetime)
  /-- A list written out as a value. -/
  | array (items : List Value)
  /-- A list of tables, each with a header of its own. -/
  | tables (items : List Value)
  /-- A table. Its keys are distinct. -/
  | table (origin : Origin) (entries : List (String × Value))

/-- The entries of a table. -/
abbrev Entries := List (String × Value)

end Harvest.Toml
