import Harvest.Toml.Value

/-!
# Adding to Tables

Entries and tables are added along paths of keys. A key is given a value once, and a table
is opened once:

* a table with a header of its own, or one written out as a value, takes no entries by
  dotted keys from outside;
* a table that only lies on the way to another one can still be given a header;
* a path goes through a list of tables by way of its latest one.
-/

namespace Harvest.Toml

/-- Changes what stands under a key, if `change` allows it. A new entry comes last. -/
def changeEntry (key : String) (change : Option Value → Option Value) :
    Entries → Option Entries
  | [] => (change none).map fun v => [(key, v)]
  | (k, v) :: rest =>
      if k = key then (change (some v)).map fun v => (k, v) :: rest
      else (changeEntry key change rest).map fun rest => (k, v) :: rest

/-- Changes the table at the end of a path. Tables that are missing on the way are added
with the origin `way`. `change` gets the origin of the last table with its entries. -/
def changeTable (way : Origin) (change : Origin → Entries → Option Entries) :
    List String → Origin → Entries → Option Entries
  | [], origin, entries => change origin entries
  | key :: path, _, entries =>
      changeEntry key (fun
        | none => (changeTable way change path way []).map (.table way)
        | some (.table origin inner) =>
            if origin = .inline ∨ (way = .dotted ∧ origin = .header) then none
            else (changeTable way change path origin inner).map (.table origin)
        | some (.tables items) =>
            match items.getLast? with
            | some (.table origin inner) =>
                (changeTable way change path origin inner).map fun inner =>
                  .tables (items.dropLast ++ [.table origin inner])
            | _ => none
        | some _ => none) entries

/-- Gives a key a value, along a path of dotted keys from a table of the given origin. The
last table on the way has itself been opened by dotted keys. -/
def addEntry (path : List String) (key : String) (value : Value) (origin : Origin)
    (entries : Entries) : Option Entries :=
  changeTable .dotted (fun last entries =>
    if path.isEmpty ∨ last = .dotted then
      changeEntry key (fun
        | none => some value
        | some _ => none) entries
    else none) path origin entries

/-- Opens the table of a header. -/
def openTable (path : List String) (key : String) (file : Entries) : Option Entries :=
  changeTable .implied (fun _ => changeEntry key fun
    | none => some (.table .header [])
    | some (.table .implied inner) => some (.table .header inner)
    | some _ => none) path .header file

/-- Opens one more table of a list. -/
def openTables (path : List String) (key : String) (file : Entries) : Option Entries :=
  changeTable .implied (fun _ => changeEntry key fun
    | none => some (.tables [.table .header []])
    | some (.tables items) => some (.tables (items ++ [.table .header []]))
    | some _ => none) path .header file

end Harvest.Toml
