import Harvest.Toml.Number
import Harvest.Toml.Table

/-!
# Reading Configuration Files

A file is a sequence of statements, each on lines of its own: an entry of the table that is
open, or a header that opens a table or one more table of a list. `Toml.read?` gives the
entries of the whole file, or nothing if a statement is malformed or contradicts an earlier
one.
-/

namespace Harvest.Toml

/-! ### Values -/

/-- Reads the items of an array up to its end. A comma may stand after the last one. -/
def readItems? (value : Reading Value) (cs : List Char) : Option (List Value × List Char) :=
  match dropBlanks cs with
  | ']' :: rest => some ([], rest)
  | start =>
      match value start with
      | none => none
      | some (v, rest) =>
          match dropBlanks rest with
          | ']' :: rest => some ([v], rest)
          | ',' :: rest =>
              if rest.length < cs.length then
                (readItems? value rest).map fun (vs, rest) => (v :: vs, rest)
              else none
          | _ => none
termination_by cs.length

/-- Reads an entry: a path of keys, and a value after the sign of equality. -/
def readBinding? (value : Reading Value) (cs : List Char) :
    Option ((List String × String × Value) × List Char) :=
  match readPath? cs with
  | some ((path, key), '=' :: rest) =>
      (value (dropSpaces rest)).map fun (v, rest) => ((path, key, v), rest)
  | _ => none

/-- Reads a comma and an entry. -/
def readNextBinding? (value : Reading Value) : Reading (List String × String × Value)
  | ',' :: cs => (readBinding? value cs).map fun (entry, rest) => (entry, dropSpaces rest)
  | _ => none

/-- Reads the entries of a table written out as a value, up to its end. -/
def readInline? (value : Reading Value) (cs : List Char) : Option (Value × List Char) :=
  let (found, rest) := match readBinding? value cs with
    | some (first, rest) =>
        let (more, rest) := many (readNextBinding? value) (dropSpaces rest)
        (first :: more, rest)
    | none => ([], dropSpaces cs)
  match rest with
  | '\x7d' :: rest =>
      (found.foldlM (fun entries (path, key, v) => addEntry path key v .inline entries) []).map
        fun entries => (.table .inline entries, rest)
  | _ => none

/-- Reads a value in which others may be nested to the given depth. -/
def readValue? : (depth : Nat) → Reading Value
  | depth, cs =>
      match cs with
      | '[' :: rest =>
          match depth with
          | 0 => none
          | depth + 1 => (readItems? (readValue? depth) rest).map fun (vs, rest) =>
              (.array vs, rest)
      | '\x7b' :: rest =>
          match depth with
          | 0 => none
          | depth + 1 => readInline? (readValue? depth) rest
      | 't' :: 'r' :: 'u' :: 'e' :: rest => some (.boolean true, rest)
      | 'f' :: 'a' :: 'l' :: 's' :: 'e' :: rest => some (.boolean false, rest)
      | c :: _ =>
          if c = '"' ∨ c = '\'' then (readText? cs).map fun (s, rest) => (.text s, rest)
          else readNumber? cs
      | [] => none

/-! ### Statements -/

/-- A statement of a file. -/
inductive Statement where
  /-- An entry of the open table. -/
  | entry (path : List String) (key : String) (value : Value)
  /-- The header of a table. -/
  | table (path : List String) (key : String)
  /-- The header of one more table of a list. -/
  | tables (path : List String) (key : String)

/-- Reads a header, or an entry. -/
def readStatement? (cs : List Char) : Option (Statement × List Char) :=
  match cs with
  | '[' :: '[' :: rest =>
      match readPath? rest with
      | some ((path, key), ']' :: ']' :: rest) => some (.tables path key, rest)
      | _ => none
  | '[' :: rest =>
      match readPath? rest with
      | some ((path, key), ']' :: rest) => some (.table path key, rest)
      | _ => none
  | _ => (readBinding? (readValue? (depthLimit - 1)) cs).map fun ((path, key, v), rest) =>
      (.entry path key v, rest)

/-- Reads a line that has a statement or is blank. -/
def readStatementLine? (cs : List Char) : Option (Option Statement × List Char) :=
  match dropSpaces cs with
  | [] => none
  | c :: rest =>
      if c = '#' ∨ c = '\n' ∨ c = '\r' then
        (readTrailing? (c :: rest)).map fun (_, rest) => (none, rest)
      else
        match readStatement? (c :: rest) with
        | none => none
        | some (s, rest) => (readTrailing? rest).map fun (_, rest) => (some s, rest)

/-- The statements of a file. -/
def readStatements? (cs : List Char) : Option (List Statement) :=
  let (lines, rest) := many readStatementLine? cs
  if (dropSpaces rest).isEmpty then some (lines.filterMap id) else none

/-! ### Files -/

/-- A file that has been read up to some statement. -/
structure Draft where
  /-- The entries of the file. -/
  file : Entries
  /-- The path to the open table. -/
  current : List String

/-- Carries out a statement. -/
def Draft.step (d : Draft) : Statement → Option Draft
  | .entry path key value =>
      (changeTable .implied (addEntry path key value) d.current .header d.file).map fun file =>
        { d with file }
  | .table path key => (openTable path key d.file).map fun file => ⟨file, path ++ [key]⟩
  | .tables path key => (openTables path key d.file).map fun file => ⟨file, path ++ [key]⟩

/-- Reads a file. A byte order mark at its start does not count. -/
def read? (text : String) : Option Entries := do
  let cs := match text.toList with
    | '\ufeff' :: rest => rest
    | cs => cs
  let statements ← readStatements? cs
  let d ← statements.foldlM Draft.step ⟨[], []⟩
  pure d.file

end Harvest.Toml
