import Harvest.Settings.Basic
import Harvest.Settings.Path
import Harvest.Toml.Reader

/-!
# Sources of Settings

Settings come from three kinds of places: the defaults, configuration files laid over them
one after the other, and values given to single paths, laid over everything else. Nothing
is read before all sources are known, so it does not matter in which order files and single
values were named; among themselves the later ones count.
-/

namespace Harvest.Settings

/-- What is set when nothing else says so. -/
def defaults : Entries :=
  [("output", .table [("pretty", .boolean true), ("mode", .text "list")]),
    ("logging", .table [("filter", .text "warn")])]

/-- Where settings come from, besides the defaults. -/
structure Sources where
  /-- The text of each configuration file, or nothing if it is missing. -/
  files : List (Option String)
  /-- Values given to single paths. -/
  overrides : List (Path × Value)

namespace Sources

/-- The defaults alone. -/
def empty : Sources := ⟨[], []⟩

instance : Inhabited Sources := ⟨empty⟩

/-- Adds a configuration file. -/
def addFile (s : Sources) (content : Option String) : Sources :=
  { s with files := s.files ++ [content] }

/-- Gives a value to the path that a key writes. -/
def setOverride (s : Sources) (key : String) (value : Value) : Except Fault Sources :=
  match Path.read? key with
  | some path => .ok { s with overrides := s.overrides ++ [(path, value)] }
  | none => .error (.malformedKey key)

end Sources

/-- Lays the entries of a file over a table. The keys at its top may be paths. -/
def layFile (base : Value) (entries : Entries) : Value :=
  entries.foldl (fun base (key, v) => base.assign (.ofKey key) v) base

/-- The entries of a configuration file. -/
def readFile : Option String → Except Fault Entries
  | none => .error .missingFile
  | some text =>
      match Toml.read? text with
      | some entries => .ok (entriesOfToml entries)
      | none => .error .malformedFile

namespace Sources

/-- All sources laid over each other. -/
def merged (s : Sources) : Except Fault Value := do
  let files ← s.files.mapM readFile
  let base := (defaults :: files).foldl layFile (.table [])
  pure (s.overrides.foldl (fun base (path, v) => base.assign path v) base)

/-- The settings that all sources make together. -/
def build (s : Sources) : Except Fault Settings := do
  ofValue (← s.merged)

end Sources

end Harvest.Settings
