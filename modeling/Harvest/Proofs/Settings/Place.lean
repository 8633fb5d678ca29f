import Mathlib.Data.List.Basic
import Harvest.Proofs.Settings.Laying

/-!
# Places in the Settings

A place is a list of keys in lower case, one for each table on the way to it. What is laid over
the settings from outside, along a path or as a table, comes to changes at places: a table that is
laid at a place is a list of changes one key further down, and so is a value at the end of a path
of keys. If a place is a table in all changes or in none, then what stands there in the end is made
of the changes at that place alone, one after the other, and a change of a whole value that is no
table takes the place of everything before it.

## Main results

* `consistent_of_consistentTo`: consistency can be checked.
* `lookup_foldl_laid`: what changes to a table do to its entries.
* `at?_made`: what stands at a place after consistent changes.
* `getLast?_of_made`: the last value that is laid as a whole.
-/

namespace Harvest.Settings

/-! ### Changes -/

/-- A value that is laid, and the steps to the place where it is laid. -/
structure Change where
  /-- The steps from here. -/
  steps : List Step
  /-- The value. -/
  value : Value

namespace Change

/-- What a change makes of what is there. -/
def apply (c : Change) (base : Value) : Value :=
  c.value.assignSteps c.steps base

/-- Whether there is a table after a change: one is laid, or the path leads on to a key. -/
def isTable : Change → Bool
  | ⟨.key _ :: _, _⟩ => true
  | ⟨[], .table _⟩ => true
  | _ => false

/-- What a change comes to under a key. -/
def under (name : String) : Change → List Change
  | ⟨.key k :: rest, v⟩ => if Text.lower k = name then [⟨rest, v⟩] else []
  | ⟨[], .table entries⟩ =>
      (entries.filter fun e => Text.lower e.1 = name).map fun e => ⟨[], e.2⟩
  | _ => []

/-- A change that is none of a table comes to nothing under a key. -/
theorem under_of_not_isTable {c : Change} (h : c.isTable = false) (name : String) :
    c.under name = [] := by
  unfold isTable at h
  unfold under
  split at h <;> simp_all

end Change

/-- What stands at a place after one change more. -/
def laid (old : Option Value) (c : Change) : Option Value :=
  some (c.apply (old.getD .absent))

/-- What changes make of nothing, one after the other. -/
def made (cs : List Change) : Option Value :=
  cs.foldl laid none

/-- What changes come to at a place. -/
def changesAt (cs : List Change) : (place : List String) → List Change
  | [] => cs
  | name :: place => changesAt (cs.flatMap (Change.under name)) place

/-- Without changes there are none at any place. -/
theorem changesAt_nil (place : List String) : changesAt [] place = [] := by
  induction place with
  | nil => rfl
  | cons name place ih => exact ih

/-- What changes come to at a place keeps their order. -/
theorem changesAt_append (cs cs' : List Change) (place : List String) :
    changesAt (cs ++ cs') place = changesAt cs place ++ changesAt cs' place := by
  induction place generalizing cs cs' with
  | nil => rfl
  | cons name place ih => rw [changesAt, List.flatMap_append, ih]; rfl

/-- Changes are consistent if no place is a table in one of them and something else in another
one. -/
def Consistent (cs : List Change) : Prop :=
  ∀ place, (∀ c ∈ changesAt cs place, c.isTable = true) ∨
    ∀ c ∈ changesAt cs place, c.isTable = false

/-- Consistent changes are so under each key. -/
theorem Consistent.under {cs : List Change} (h : Consistent cs) (name : String) :
    Consistent (cs.flatMap (Change.under name)) :=
  fun place => h (name :: place)

/-! ### Checking consistency -/

/-- The keys under which a change comes to something. -/
def Change.names : Change → List String
  | ⟨.key k :: _, _⟩ => [Text.lower k]
  | ⟨[], .table entries⟩ => entries.map fun e => Text.lower e.1
  | _ => []

/-- A change comes to nothing under a key that it does not name. -/
theorem Change.under_eq_nil_of_notMem {c : Change} {name : String} (h : name ∉ c.names) :
    c.under name = [] := by
  unfold names at h
  unfold under
  split
  · rw [if_neg fun hk => h (List.mem_singleton.2 hk.symm)]
  · rename_i entries
    rw [List.map_eq_nil_iff, List.filter_eq_nil_iff]
    intro e he hname
    exact h (List.mem_map.2 ⟨e, he, of_decide_eq_true hname⟩)
  · rfl

/-- Checks changes for consistency at places of less than the given length, where all changes
have to end. -/
def consistentTo : Nat → List Change → Bool
  | 0, cs => cs.isEmpty
  | n + 1, cs =>
      (cs.all Change.isTable || cs.all fun c => !c.isTable) &&
        (cs.flatMap Change.names).all fun name => consistentTo n (cs.flatMap (Change.under name))

/-- Without changes there is nothing that is inconsistent. -/
theorem consistent_nil : Consistent [] := by
  intro place
  rw [changesAt_nil]
  exact .inl (List.forall_mem_nil _)

/-- **Consistency** can be checked. -/
theorem consistent_of_consistentTo {n : Nat} {cs : List Change} (h : consistentTo n cs = true) :
    Consistent cs := by
  induction n generalizing cs with
  | zero =>
      obtain rfl := List.isEmpty_iff.1 h
      exact consistent_nil
  | succ n ih =>
      obtain ⟨hhere, hunder⟩ := Bool.and_eq_true_iff.1 h
      intro place
      cases place with
      | nil =>
          refine (Bool.or_eq_true_iff.1 hhere).imp List.all_eq_true.1 fun hothers c hc => ?_
          exact Bool.not_eq_eq_eq_not.1 (List.all_eq_true.1 hothers c hc)
      | cons name place =>
          rw [changesAt]
          by_cases hname : name ∈ cs.flatMap Change.names
          · exact ih (List.all_eq_true.1 hunder name hname) place
          · have hnil : cs.flatMap (Change.under name) = [] :=
              List.flatMap_eq_nil_iff.2 fun c hc => Change.under_eq_nil_of_notMem fun hmem =>
                hname (List.mem_flatMap.2 ⟨c, hc, hmem⟩)
            rw [hnil]
            exact consistent_nil place

/-! ### Tables -/

/-- The entry of a key after a table has been laid. -/
theorem lookup_layEntries_eq (entries base : Entries) (name : String) :
    (layEntries entries base).lookup name =
      ((Change.mk [] (.table entries)).under name).foldl laid (base.lookup name) := by
  rw [Change.under]
  induction entries generalizing base with
  | nil => rw [layEntries]; rfl
  | cons entry rest ih =>
      obtain ⟨k, v⟩ := entry
      rw [layEntries, ih, lookup_changeEntry, List.filter_cons]
      by_cases heq : Text.lower k = name
      · subst heq
        rw [if_pos rfl, if_pos (by simp)]
        rfl
      · rw [if_neg (Ne.symm heq), if_neg (by simpa using heq)]

/-- The entry of a key after a change to a table. -/
theorem lookup_apply {c : Change} (h : c.isTable = true) (base : Value) (name : String) :
    (c.apply base).entries.lookup name =
      (c.under name).foldl laid (base.entries.lookup name) := by
  unfold Change.isTable at h
  split at h
  · rename_i k rest v
    rw [Change.apply, Value.assignSteps, Value.entries, lookup_changeEntry, Change.under]
    by_cases heq : Text.lower k = name
    · subst heq
      rw [if_pos rfl, if_pos rfl]
      rfl
    · rw [if_neg (Ne.symm heq), if_neg heq]
      rfl
  · rename_i entries
    rw [Change.apply, Value.assignSteps, Value.entries_layOver_table]
    exact lookup_layEntries_eq entries base.entries name
  · cases h

/-- **The entry of a key** after changes to a table is made by what they come to under the key. -/
theorem lookup_foldl_laid {cs : List Change} (h : ∀ c ∈ cs, c.isTable = true)
    (old : Option Value) (name : String) :
    ((cs.foldl laid old).getD .absent).entries.lookup name =
      (cs.flatMap (Change.under name)).foldl laid ((old.getD .absent).entries.lookup name) := by
  induction cs generalizing old with
  | nil => rfl
  | cons c cs ih =>
      obtain ⟨hc, hcs⟩ := List.forall_mem_cons.1 h
      rw [List.foldl_cons, ih hcs, List.flatMap_cons, List.foldl_append, ← lookup_apply hc]
      rfl

/-- A change to a table, or to nothing, makes a table. -/
theorem exists_table_of_apply {c : Change} (h : c.isTable = true) {base : Value}
    (hbase : base = .absent ∨ ∃ entries, base = .table entries) :
    ∃ entries, c.apply base = .table entries := by
  unfold Change.isTable at h
  split at h
  · exact ⟨_, rfl⟩
  · rename_i entries
    rw [Change.apply, Value.assignSteps]
    by_cases hnil : entries = []
    · subst hnil
      rcases hbase with rfl | ⟨entries', rfl⟩
      · exact ⟨_, rfl⟩
      · exact ⟨_, rfl⟩
    · exact ⟨_, Value.layOver_table_of_ne_nil hnil base⟩
  · cases h

/-- Changes to a table that is there leave a table. -/
theorem exists_table_of_foldl {cs : List Change} (h : ∀ c ∈ cs, c.isTable = true)
    (entries : Entries) : ∃ entries', cs.foldl laid (some (.table entries)) =
      some (.table entries') := by
  induction cs generalizing entries with
  | nil => exact ⟨entries, rfl⟩
  | cons c cs ih =>
      obtain ⟨hc, hcs⟩ := List.forall_mem_cons.1 h
      obtain ⟨entries', hentries'⟩ := exists_table_of_apply hc (.inr ⟨entries, rfl⟩)
      rw [List.foldl_cons, laid, Option.getD_some, hentries']
      exact ih hcs entries'

/-- Changes to a table make a table, if there are any. -/
theorem exists_table_of_made {cs : List Change} (h : ∀ c ∈ cs, c.isTable = true)
    (hne : cs ≠ []) : ∃ entries, made cs = some (.table entries) := by
  cases cs with
  | nil => exact absurd rfl hne
  | cons c cs =>
      obtain ⟨hc, hcs⟩ := List.forall_mem_cons.1 h
      obtain ⟨entries, hentries⟩ := exists_table_of_apply hc (.inl rfl)
      rw [made, List.foldl_cons, laid, Option.getD_none, hentries]
      exact exists_table_of_foldl hcs entries

/-! ### Other values -/

/-- The last change is made to what the others have made. -/
theorem made_append_singleton (cs : List Change) (c : Change) :
    made (cs ++ [c]) = some (c.apply ((made cs).getD .absent)) := by
  rw [made, List.foldl_append, List.foldl_cons, List.foldl_nil, laid, made]

/-- A change at a position makes a list. -/
theorem exists_list_of_index (i : Int) (rest : List Step) (v base : Value) :
    ∃ items, (Change.mk (.index i :: rest) v).apply base = .list items := by
  cases rest with
  | nil => exact ⟨_, rfl⟩
  | cons step rest => exact ⟨_, rfl⟩

/-- A change to something else than a table lays a whole value, or makes a list. -/
theorem apply_of_not_isTable {c : Change} (h : c.isTable = false) :
    (∃ v, c = ⟨[], v⟩ ∧ (∀ entries, v ≠ .table entries) ∧ ∀ base, c.apply base = v) ∨
      ∀ base, ∃ items, c.apply base = .list items := by
  obtain ⟨steps, v⟩ := c
  cases steps with
  | nil =>
      have hv : ∀ entries, v ≠ .table entries := by
        rintro entries rfl
        cases h
      exact .inl ⟨v, rfl, hv, Value.layOver_of_ne_table hv⟩
  | cons step rest =>
      cases step with
      | key k => cases h
      | index i => exact .inr (exists_list_of_index i rest v)

/-- What is left by such a change has no entries. -/
theorem entries_apply_of_not_isTable {c : Change} (h : c.isTable = false) (base : Value) :
    (c.apply base).entries = [] := by
  rcases apply_of_not_isTable h with ⟨v, -, hv, happly⟩ | hlist
  · rw [happly]
    cases v with
    | table entries => exact absurd rfl (hv entries)
    | _ => rfl
  · obtain ⟨items, hitems⟩ := hlist base
    rw [hitems]
    rfl

/-- What such changes make has no entries. -/
theorem entries_made_of_not_isTable {cs : List Change} (h : ∀ c ∈ cs, c.isTable = false) :
    ((made cs).getD .absent).entries = [] := by
  rcases List.eq_nil_or_concat' cs with rfl | ⟨before, c, rfl⟩
  · rfl
  · rw [made_append_singleton]
    exact entries_apply_of_not_isTable (h c (List.mem_append_right _ List.mem_cons_self)) _

/-- **The last whole value.** Let changes make something else than a table, and no list. Then the
last of them has laid it as a whole. -/
theorem getLast?_of_made {cs : List Change} (h : ∀ c ∈ cs, c.isTable = false) {v : Value}
    (hmade : made cs = some v) (hlist : ∀ items, v ≠ .list items) :
    cs.getLast? = some ⟨[], v⟩ := by
  rcases List.eq_nil_or_concat' cs with rfl | ⟨before, c, rfl⟩
  · cases hmade
  · rw [made_append_singleton] at hmade
    rw [List.getLast?_concat]
    rcases apply_of_not_isTable (h c (List.mem_append_right _ List.mem_cons_self)) with
      ⟨w, rfl, -, happly⟩ | hitems
    · rw [happly] at hmade
      rw [Option.some.inj hmade]
    · obtain ⟨items, happly⟩ := hitems ((made before).getD .absent)
      rw [happly] at hmade
      exact absurd (Option.some.inj hmade).symm (hlist items)

/-! ### Places -/

/-- What stands at a place of a value. -/
def Value.at? (v : Value) : (place : List String) → Option Value
  | [] => some v
  | name :: place => (v.entries.lookup name).bind fun w => w.at? place

/-- **What stands at a place** after consistent changes is made of the changes at that place. -/
theorem at?_made {cs : List Change} (h : Consistent cs) (place : List String) :
    ((made cs).bind fun v => v.at? place) = made (changesAt cs place) := by
  induction place generalizing cs with
  | nil =>
      rw [changesAt]
      cases made cs <;> rfl
  | cons name place ih =>
      have hentry : ((made cs).bind fun v => v.at? (name :: place)) =
          (((made cs).getD .absent).entries.lookup name).bind fun w => w.at? place := by
        cases made cs <;> rfl
      rw [hentry, changesAt, ← ih (h.under name)]
      congr 1
      -- the outermost place is a table in all changes or in none; without one there are no entries
      have hroot : (∀ c ∈ cs, c.isTable = true) ∨ ∀ c ∈ cs, c.isTable = false := h []
      rcases hroot with htables | hothers
      · exact lookup_foldl_laid htables none name
      · have hunder : cs.flatMap (Change.under name) = [] :=
          List.flatMap_eq_nil_iff.2 fun c hc => Change.under_of_not_isTable (hothers c hc) name
        rw [entries_made_of_not_isTable hothers, hunder]
        rfl

end Harvest.Settings
