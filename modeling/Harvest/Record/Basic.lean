import Harvest.Dictionary
import Harvest.Record.Field

/-!
# Records

A record type is either *dynamic*, a dictionary of texts that takes any name, or
*declared*, a list of typed fields. Every field of a declared type answers to a target
name; where two fields answer to the same name, the first one takes the value.
-/

namespace Harvest.Record

/-- A field of a declared record type. -/
structure Field where
  /-- The field's own name. -/
  name : String
  /-- The type of its values. -/
  type : FieldType
  /-- The name that targets call it by. -/
  target : String := name

/-- The values of a list of fields. -/
abbrev Row : List Field → Type
  | [] => Unit
  | f :: fs => f.type.Value × Row fs

/-- The row that every record starts with. -/
def Row.default : (fields : List Field) → Row fields
  | [] => ()
  | f :: fs => (f.type.default, Row.default fs)

/-- Stores a text in the first field that answers to `name`. -/
def Row.assign : (fields : List Field) → Row fields → (name text : String) →
    Except FieldError (Row fields)
  | [], _, name, _ => .error (.unknownField name)
  | f :: fs, (value, row), name, text =>
      if name = f.target then (f.type.assign value text).map fun v => (v, row)
      else (Row.assign fs row name text).map fun r => (value, r)

/-- A type of records. -/
inductive RecordType where
  /-- Any names, each with a text. -/
  | dynamic
  /-- One or more declared fields. -/
  | declared (first : Field) (rest : List Field)

/-- The records of a type. -/
abbrev RecordType.Value : RecordType → Type
  | .dynamic => Dictionary String
  | .declared first rest => Row (first :: rest)

/-- The record that a type starts with. -/
def RecordType.default : (τ : RecordType) → τ.Value
  | .dynamic => Dictionary.empty
  | .declared first rest => Row.default (first :: rest)

/-- The names that targets may use, in order; empty when every name is taken. -/
def RecordType.fieldNames : RecordType → List String
  | .dynamic => []
  | .declared first rest => (first :: rest).map Field.target

/-- Stores a text under a name. A failed coercion leaves the record as it was. -/
def RecordType.assign : (τ : RecordType) → τ.Value → (name text : String) →
    Except FieldError τ.Value
  | .dynamic, entries, name, text => .ok (Dictionary.insert entries name text)
  | .declared first rest, row, name, text => Row.assign (first :: rest) row name text

end Harvest.Record
