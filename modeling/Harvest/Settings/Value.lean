import Harvest.Text.CaseMapping
import Harvest.Toml.Value

/-!
# Values of Settings

Settings come from several places and are laid over each other. A table laid over another
one adds to it, entry by entry and at every depth; any other value takes the place of what
it is laid over. Keys are in lower case wherever they are laid.
-/

namespace Harvest.Settings

/-- A value that a setting can be given. -/
inductive Value where
  /-- Nothing has been given. -/
  | absent
  /-- A truth value. -/
  | boolean (b : Bool)
  /-- An integer. -/
  | integer (n : Int)
  /-- Another number. -/
  | float (x : Number.Binary)
  /-- A text. -/
  | text (s : String)
  /-- A list. -/
  | list (items : List Value)
  /-- A table. -/
  | table (entries : List (String × Value))

instance : Inhabited Value := ⟨.absent⟩

/-- The entries of a table. -/
abbrev Entries := List (String × Value)

/-! ### Equality -/

mutual

/-- Whether two values are the same. -/
def Value.same : Value → Value → Bool
  | .absent, .absent => true
  | .boolean b, .boolean c => b = c
  | .integer m, .integer n => m = n
  | .float x, .float y => x = y
  | .text s, .text t => s = t
  | .list vs, .list ws => sameItems vs ws
  | .table es, .table fs => sameEntries es fs
  | _, _ => false

/-- Whether two lists hold the same values. -/
def sameItems : List Value → List Value → Bool
  | [], [] => true
  | v :: vs, w :: ws => v.same w && sameItems vs ws
  | _, _ => false

/-- Whether two tables hold the same values under the same keys, in the same order. -/
def sameEntries : Entries → Entries → Bool
  | [], [] => true
  | (k, v) :: es, (l, w) :: fs => k = l && v.same w && sameEntries es fs
  | _, _ => false

end

mutual

/-- Two values are the same if they are equal. -/
theorem Value.same_iff : ∀ {v w : Value}, v.same w = true ↔ v = w
  | .absent, w | .boolean _, w | .integer _, w | .float _, w | .text _, w => by
      cases w <;> simp [Value.same]
  | .list vs, w => by cases w <;> simp [Value.same, sameItems_iff]
  | .table es, w => by cases w <;> simp [Value.same, sameEntries_iff]

/-- Two lists hold the same values if they are equal. -/
theorem sameItems_iff : ∀ {vs ws : List Value}, sameItems vs ws = true ↔ vs = ws
  | [], ws => by cases ws <;> simp [sameItems]
  | v :: vs, ws => by cases ws <;> simp [sameItems, Value.same_iff, sameItems_iff]

/-- Two tables hold the same entries if they are equal. -/
theorem sameEntries_iff : ∀ {es fs : Entries}, sameEntries es fs = true ↔ es = fs
  | [], fs => by cases fs <;> simp [sameEntries]
  | (k, v) :: es, fs => by
      cases fs <;> simp [sameEntries, Value.same_iff, sameEntries_iff, Prod.ext_iff]

end

instance : DecidableEq Value := fun _ _ => decidable_of_iff _ Value.same_iff

/-! ### Values from files -/

mutual

/-- The value that a configuration file gives. Dates and times are texts. -/
def Value.ofToml : Toml.Value → Value
  | .text s => .text s
  | .integer n => .integer n
  | .float x => .float x
  | .boolean b => .boolean b
  | .datetime m => .text m.text
  | .array items => .list (itemsOfToml items)
  | .tables items => .list (itemsOfToml items)
  | .table _ entries => .table (entriesOfToml entries)

/-- The values of a list. -/
def itemsOfToml : List Toml.Value → List Value
  | [] => []
  | v :: vs => .ofToml v :: itemsOfToml vs

/-- The entries of a table. -/
def entriesOfToml : Toml.Entries → Entries
  | [] => []
  | (key, v) :: rest => (key, .ofToml v) :: entriesOfToml rest

end

/-! ### Values over values -/

/-- The entries of a value; only a table has some. -/
def Value.entries : Value → Entries
  | .table entries => entries
  | _ => []

/-- The items of a value; only a list has some. -/
def Value.items : Value → List Value
  | .list items => items
  | _ => []

/-- Changes what stands under a key, which is added last if it is missing. -/
def changeEntry (key : String) (change : Value → Value) : Entries → Entries
  | [] => [(key, change .absent)]
  | (k, v) :: rest =>
      if k = key then (k, change v) :: rest else (k, v) :: changeEntry key change rest

mutual

/-- What becomes of `base` when a value is laid over it. A table without entries only takes
a place that is free. -/
def Value.layOver (incoming base : Value) : Value :=
  match incoming with
  | .table [] =>
      match base with
      | .absent => .table []
      | base => base
  | .table (entry :: entries) => .table (layEntries (entry :: entries) base.entries)
  | v => v

/-- What becomes of the entries of a table when others are laid over them. -/
def layEntries (incoming base : Entries) : Entries :=
  match incoming with
  | [] => base
  | (key, v) :: rest =>
      layEntries rest (changeEntry (Text.lower key) (fun old => v.layOver old) base)

end

end Harvest.Settings
