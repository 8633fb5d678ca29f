import Harvest.Proofs.Except
import Harvest.Proofs.Text.CaseMapping
import Harvest.Settings.Sources

/-!
# Laying Values Over Each Other

The entries of a configuration file are assignments to paths, like the values given to single
paths, so that all sources together are one list of assignments. An assignment changes one
place of the table and leaves the others alone, and the last value for a place is laid over
what was there before. Whatever is laid, the keys of a table are distinct and in lower case.

## Main results

* `lookup_changeEntry`, `lookup_layEntries`: what is found in a table after an assignment.
* `Value.Tidy.layOver`, `Value.Tidy.assignSteps`: keys stay distinct and in lower case.
* `Sources.merged_eq`: all sources as one list of assignments.
-/

namespace Harvest.Settings

/-! ### Entries -/

/-- What stands under a key after the entry of a key has been changed. -/
theorem lookup_changeEntry (key name : String) (change : Value → Value) (entries : Entries) :
    (changeEntry key change entries).lookup name =
      if name = key then some (change ((entries.lookup key).getD .absent))
      else entries.lookup name := by
  induction entries with
  | nil =>
      rw [changeEntry, List.lookup_cons]
      by_cases heq : name = key
      · rw [if_pos heq, beq_iff_eq.2 heq]
        rfl
      · rw [if_neg heq, beq_eq_false_iff_ne.2 heq]
  | cons entry rest ih =>
      obtain ⟨k, v⟩ := entry
      rw [changeEntry]
      by_cases hk : k = key
      · subst hk
        rw [if_pos rfl, List.lookup_cons, List.lookup_cons, List.lookup_cons,
          beq_self_eq_true]
        by_cases heq : name = k
        · rw [if_pos heq, beq_iff_eq.2 heq]
          rfl
        · rw [if_neg heq, beq_eq_false_iff_ne.2 heq]
      · rw [if_neg hk, List.lookup_cons, List.lookup_cons, List.lookup_cons, ih]
        by_cases heq : name = key
        · subst heq
          rw [if_pos rfl, if_pos rfl, beq_eq_false_iff_ne.2 (Ne.symm hk)]
        · rw [if_neg heq, if_neg heq]

/-- The keys after the entry of a key has been changed. -/
theorem keys_changeEntry (key : String) (change : Value → Value) (entries : Entries) :
    (changeEntry key change entries).map Prod.fst =
      if key ∈ entries.map Prod.fst then entries.map Prod.fst
      else entries.map Prod.fst ++ [key] := by
  induction entries with
  | nil => rfl
  | cons entry rest ih =>
      obtain ⟨k, v⟩ := entry
      rw [changeEntry]
      by_cases hk : k = key
      · subst hk
        rw [if_pos rfl, if_pos (by simp)]
        rfl
      · rw [if_neg hk, List.map_cons, List.map_cons, ih]
        by_cases hmem : key ∈ rest.map Prod.fst
        · rw [if_pos hmem, if_pos (List.mem_cons_of_mem _ hmem)]
        · have hnot : key ∉ k :: rest.map Prod.fst := fun h =>
            (List.mem_cons.1 h).elim (fun heq => hk heq.symm) hmem
          rw [if_neg hmem, if_neg hnot]
          rfl

/-- Entries are laid over a table one after the other. -/
theorem layEntries_append (entries entries' base : Entries) :
    layEntries (entries ++ entries') base = layEntries entries' (layEntries entries base) := by
  induction entries generalizing base with
  | nil => rw [layEntries, List.nil_append]
  | cons entry rest ih =>
      obtain ⟨k, v⟩ := entry
      rw [List.cons_append, layEntries, layEntries, ih]

/-- Entries with other keys leave a place alone. -/
theorem lookup_layEntries_of_ne {entries : Entries} {name : String}
    (h : ∀ e ∈ entries, Text.lower e.1 ≠ name) (base : Entries) :
    (layEntries entries base).lookup name = base.lookup name := by
  induction entries generalizing base with
  | nil => rw [layEntries]
  | cons entry rest ih =>
      obtain ⟨k, v⟩ := entry
      obtain ⟨hk, hrest⟩ := List.forall_mem_cons.1 h
      rw [layEntries, ih hrest, lookup_changeEntry, if_neg (Ne.symm hk)]

/-- The last value that entries give to a key, in whatever case they write it. -/
def Gives (entries : Entries) (key : String) (v : Value) : Prop :=
  ∃ before k after, entries = before ++ (k, v) :: after ∧ Text.lower k = key ∧
    ∀ e ∈ after, Text.lower e.1 ≠ key

/-- **Entries laid over a table.** The last value for a key is laid over what the entries before
it and the table give. -/
theorem lookup_layEntries {before after : Entries} {k : String} {v : Value}
    (h : ∀ e ∈ after, Text.lower e.1 ≠ Text.lower k) (base : Entries) :
    (layEntries (before ++ (k, v) :: after) base).lookup (Text.lower k) =
      some (v.layOver (((layEntries before base).lookup (Text.lower k)).getD .absent)) := by
  rw [layEntries_append, layEntries, lookup_layEntries_of_ne h, lookup_changeEntry, if_pos rfl]

/-! ### Values -/

/-- What is not a table takes the place of what it is laid over. -/
theorem Value.layOver_of_ne_table {v : Value} (h : ∀ entries, v ≠ .table entries)
    (base : Value) : v.layOver base = v := by
  cases v with
  | table entries => exact absurd rfl (h entries)
  | _ => simp only [Value.layOver]

/-- A table with entries is laid over a value entry by entry. -/
theorem Value.layOver_table_of_ne_nil {entries : Entries} (h : entries ≠ []) (base : Value) :
    (Value.table entries).layOver base = .table (layEntries entries base.entries) := by
  cases entries with
  | nil => exact absurd rfl h
  | cons entry rest => rw [Value.layOver]

/-- The entries of a table that is laid over a value. -/
theorem Value.entries_layOver_table (entries : Entries) (base : Value) :
    ((Value.table entries).layOver base).entries = layEntries entries base.entries := by
  cases entries with
  | nil =>
      rw [layEntries]
      cases base <;> rfl
  | cons entry rest =>
      rw [layOver_table_of_ne_nil (List.cons_ne_nil _ _)]
      rfl

/-- The keys of a value are distinct and in lower case. -/
structure Value.Tidy (v : Value) : Prop where
  /-- The keys are distinct. -/
  nodup : (v.entries.map Prod.fst).Nodup
  /-- They are in lower case. -/
  lower_eq : ∀ k ∈ v.entries.map Prod.fst, Text.lower k = k

namespace Value

/-- A value without entries is tidy. -/
theorem Tidy.of_entries_eq_nil {v : Value} (h : v.entries = []) : v.Tidy := by
  constructor
  · rw [h]
    exact List.nodup_nil
  · rw [h]
    exact List.forall_mem_nil _

/-- Changing the entry of a key in lower case keeps keys tidy. -/
theorem Tidy.changeEntry {entries : Entries} (h : (Value.table entries).Tidy) (key : String)
    (change : Value → Value) :
    (Value.table (Settings.changeEntry (Text.lower key) change entries)).Tidy := by
  obtain ⟨hnodup, hlower⟩ := h
  constructor
  · rw [Value.entries, keys_changeEntry]
    split
    · exact hnodup
    · rename_i hnot
      refine List.nodup_append.2
        ⟨hnodup, List.pairwise_singleton _ _, fun k hk key' hkey heq => hnot ?_⟩
      rwa [← List.mem_singleton.1 hkey, ← heq]
  · rw [Value.entries, keys_changeEntry]
    split
    · exact hlower
    · intro k hk
      rcases List.mem_append.1 hk with hk | hk
      · exact hlower k hk
      · rw [List.mem_singleton.1 hk]
        exact Text.lower_lower key

theorem Tidy.layEntries {base : Entries} (h : (Value.table base).Tidy) (entries : Entries) :
    (Value.table (Settings.layEntries entries base)).Tidy := by
  induction entries generalizing base with
  | nil =>
      rw [Settings.layEntries]
      exact h
  | cons entry rest ih =>
      obtain ⟨k, v⟩ := entry
      rw [Settings.layEntries]
      exact ih (h.changeEntry k _)

/-- **Laying a value** over another keeps keys tidy. -/
theorem Tidy.layOver {base : Value} (h : base.Tidy) (v : Value) : (v.layOver base).Tidy := by
  cases v with
  | table entries =>
      have htable : (Value.table base.entries).Tidy := ⟨h.nodup, h.lower_eq⟩
      have hlaid := htable.layEntries entries
      constructor
      · rw [entries_layOver_table]
        exact hlaid.nodup
      · rw [entries_layOver_table]
        exact hlaid.lower_eq
  | _ =>
      refine .of_entries_eq_nil ?_
      rw [layOver_of_ne_table fun _ => Value.noConfusion]
      rfl

/-- **Assigning** along the steps of a path keeps keys tidy. -/
theorem Tidy.assignSteps {base : Value} (h : base.Tidy) (v : Value) (steps : List Step) :
    (v.assignSteps steps base).Tidy := by
  cases steps with
  | nil => exact h.layOver v
  | cons step rest =>
      cases step with
      | key name => exact Tidy.changeEntry ⟨h.nodup, h.lower_eq⟩ name _
      | index i =>
          refine .of_entries_eq_nil ?_
          cases rest <;> rfl

end Value

/-! ### Sources -/

/-- A value and the path to its place. -/
abbrev Assignment := Path × Value

/-- The entries of a file as assignments. -/
def assignments (entries : Entries) : List Assignment :=
  entries.map fun e => (.ofKey e.1, e.2)

/-- A value after assignments, one after the other. -/
def Value.assignAll (base : Value) (as : List Assignment) : Value :=
  as.foldl (fun base a => base.assign a.1 a.2) base

theorem Value.assignAll_append (base : Value) (as as' : List Assignment) :
    base.assignAll (as ++ as') = (base.assignAll as).assignAll as' :=
  List.foldl_append

theorem layFile_eq_assignAll (base : Value) (entries : Entries) :
    layFile base entries = base.assignAll (assignments entries) := by
  rw [Value.assignAll, assignments, List.foldl_map]
  rfl

theorem foldl_layFile (base : Value) (files : List Entries) :
    files.foldl layFile base = base.assignAll (files.flatMap assignments) := by
  induction files generalizing base with
  | nil => rfl
  | cons file files ih =>
      rw [List.foldl_cons, ih, layFile_eq_assignAll, List.flatMap_cons, Value.assignAll_append]

/-- All assignments of some sources: the defaults, the files with the given entries, and the
values for single paths. -/
def Sources.assignments (s : Sources) (files : List Entries) : List Assignment :=
  (defaults :: files).flatMap Settings.assignments ++ s.overrides

/-- **All sources** laid over each other are their assignments one after the other. -/
theorem Sources.merged_eq {s : Sources} {files : List Entries}
    (h : s.files.mapM readFile = .ok files) :
    s.merged = .ok ((Value.table []).assignAll (s.assignments files)) := by
  rw [merged, h, assignments, Value.assignAll_append, ← foldl_layFile]
  rfl

/-- What stands under a key of the outermost table after an assignment. -/
theorem lookup_assign (base : Value) (a : Assignment) (name : String) :
    (base.assign a.1 a.2).entries.lookup name =
      if name = Text.lower a.1.first then
        some (a.2.assignSteps a.1.rest ((base.entries.lookup name).getD .absent))
      else base.entries.lookup name := by
  have hassign : base.assign a.1 a.2 =
      .table (changeEntry (Text.lower a.1.first) (a.2.assignSteps a.1.rest) base.entries) := by
    rw [Value.assign, Path.steps, Value.assignSteps]
  rw [hassign, Value.entries, lookup_changeEntry]
  by_cases heq : name = Text.lower a.1.first
  · rw [if_pos heq, if_pos heq, heq]
  · rw [if_neg heq, if_neg heq]

end Harvest.Settings
