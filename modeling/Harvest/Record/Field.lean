import Harvest.Number.Decimal
import Harvest.Text.Quoted

/-!
# Field Types and Coercion

Captured texts land in typed fields. A field type says which values its fields hold and
how a text becomes one:

* a text field takes the text as it is;
* an integer field takes a numeral in the range of its type;
* a float field takes a decimal literal, and one of 32 bits refuses a finite value that is
  too large for it;
* a list field takes one item at a time and appends it;
* an optional field takes one value and stores it in the place of the old one.

Values are typed by their field type, so a field can hold no other value.
-/

namespace Harvest.Record

open Number

/-- The two sizes of floating-point fields. -/
inductive FloatSize where
  /-- 32 bits. -/
  | single
  /-- 64 bits. -/
  | double
  deriving DecidableEq, Repr

/-- The format of a size. -/
def FloatSize.format : FloatSize → BinaryFormat
  | .single => .single
  | .double => .double

/-- The name of a size. -/
def FloatSize.name : FloatSize → String
  | .single => "f32"
  | .double => "f64"

/-- The type of a field. -/
inductive FieldType where
  /-- A text. -/
  | text
  /-- An integer of fixed width. -/
  | integer (type : IntegerType)
  /-- A floating-point number. -/
  | float (size : FloatSize)
  /-- A list of values of one type. -/
  | list (item : FieldType)
  /-- A value of one type or none. -/
  | option (item : FieldType)
  deriving DecidableEq, Repr

/-- The values of a field type. -/
abbrev FieldType.Value : FieldType → Type
  | .text => String
  | .integer _ => Int
  | .float _ => Binary
  | .list item => List item.Value
  | .option item => Option item.Value

/-- The value that a field starts with. -/
def FieldType.default : (t : FieldType) → t.Value
  | .text => ""
  | .integer _ => (0 : Int)
  | .float size => size.format.round false 0 1
  | .list _ => []
  | .option _ => none

/-- Why a text cannot be stored in a field. -/
inductive FieldError where
  /-- The record has no field of that name. -/
  | unknownField (name : String)
  /-- The text is no literal of the type named. -/
  | parse (value kind : String)
  /-- The value is out of range of the type named. -/
  | overflow (value kind : String)
  deriving DecidableEq, Repr

/-- The text of a field error. -/
def FieldError.message : FieldError → String
  | .unknownField name => s!"no field named `{name}`"
  | .parse value kind => s!"{Text.quoted value} is not a valid {kind}"
  | .overflow value kind => s!"{Text.quoted value} overflows {kind}"

/-- Reads a text as an integer. -/
def coerceInteger (t : IntegerType) (text : String) : Except FieldError Int :=
  match t.read text with
  | .ok value => .ok value
  | .error .malformed => .error (.parse text t.name)
  | .error .outOfRange => .error (.overflow text t.name)

/-- Reads a text as a floating-point number. It is rounded to 64 bits first; a finite
result that exceeds the range of 32 bits is refused there, and rounded a second time
otherwise. -/
def coerceFloat (size : FloatSize) (text : String) : Except FieldError Binary :=
  match BinaryFormat.double.read? text with
  | none => .error (.parse text size.name)
  | some value =>
      match size with
      | .double => .ok value
      | .single =>
          match value with
          | .finite negative m e =>
              if BinaryFormat.single.exceeds m e then .error (.overflow text size.name)
              else .ok (BinaryFormat.single.convert (.finite negative m e))
          | other => .ok other

/-- Stores a text in a field that holds `old`. -/
def FieldType.assign : (t : FieldType) → (old : t.Value) → String → Except FieldError t.Value
  | .text, _, source => .ok source
  | .integer t, _, source => coerceInteger t source
  | .float size, _, source => coerceFloat size source
  | .list item, old, source =>
      (item.assign item.default source).map fun value => (old ++ [value] : List item.Value)
  | .option item, _, source => (item.assign item.default source).map some

end Harvest.Record
