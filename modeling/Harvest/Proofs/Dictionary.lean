import Harvest.Dictionary

/-!
# Storing Many Entries

Of entries with distinct names that are stored one after the other, each is found under its
name afterwards, and what was stored before is found under all other names. Entries are listed in
the order of their names, so that the names alone tell what comes before an entry.

## Main results

* `Dictionary.names_eq_of_mem_iff`, `Dictionary.mem_before_iff`: the order of the entries.
* `Dictionary.get?_foldl_insert`: what is found after storing entries.
* `Dictionary.get?_ofList`, `Dictionary.get?_insertAll`: the dictionary of some entries, and one
  dictionary stored in another.
-/

namespace Harvest.Dictionary

variable {α : Type}

/-- The names of a dictionary are distinct. -/
theorem nodup_names (d : Dictionary α) : d.names.Nodup := by
  refine d.ascending.imp fun hlt heq => ?_
  subst heq
  exact String.lt_irrefl _ hlt

/-- What is found under a name is one of the entries. -/
theorem mem_of_lookup {entries : List (String × α)} {name : String} {a : α}
    (h : entries.lookup name = some a) : (name, a) ∈ entries := by
  obtain ⟨before, after, rfl, -⟩ := List.lookup_eq_some_iff.1 h
  exact List.mem_append_right _ List.mem_cons_self

/-- Nothing is found under a name that no entry has. -/
theorem lookup_eq_none_of_notMem {entries : List (String × α)} {name : String}
    (h : name ∉ entries.map Prod.fst) : entries.lookup name = none := by
  cases hlookup : entries.lookup name with
  | none => rfl
  | some a => exact absurd (List.mem_map_of_mem (mem_of_lookup hlookup)) h

/-- Something is found under a name if and only if some entry has it. -/
theorem lookup_ne_none_iff {entries : List (String × α)} {name : String} :
    entries.lookup name ≠ none ↔ name ∈ entries.map Prod.fst := by
  constructor
  · intro h
    obtain ⟨a, ha⟩ := Option.ne_none_iff_exists'.1 h
    exact List.mem_map_of_mem (mem_of_lookup ha)
  · intro h hnone
    obtain ⟨entry, hentry, rfl⟩ := List.mem_map.1 h
    have hne := List.lookup_eq_none_iff.1 hnone entry hentry
    rw [bne_self_eq_false] at hne
    exact Bool.false_ne_true hne

/-- A name is there if and only if something is found under it. -/
theorem mem_names_iff {d : Dictionary α} {name : String} :
    name ∈ d.names ↔ d.get? name ≠ none :=
  lookup_ne_none_iff.symm

/-- Dictionaries with the same names list them in the same order. -/
theorem names_eq_of_mem_iff {β : Type} {d : Dictionary α} {e : Dictionary β}
    (h : ∀ name, name ∈ d.names ↔ name ∈ e.names) : d.names = e.names := by
  have hperm : d.names.Perm e.names :=
    (List.perm_ext_iff_of_nodup d.nodup_names e.nodup_names).2 h
  refine List.Perm.eq_of_pairwise (fun a b _ _ hab hba => ?_) d.ascending e.ascending hperm
  exact absurd (String.lt_trans hab hba) (String.lt_irrefl a)

/-- The entries before an entry are those with smaller names. -/
theorem mem_before_iff {d : Dictionary α} {before after : List (String × α)} {e : String × α}
    (h : d.entries = before ++ e :: after) {e' : String × α} :
    e' ∈ before ↔ e' ∈ d.entries ∧ e'.1 < e.1 := by
  have hascending := d.ascending
  rw [h, List.map_append, List.map_cons, List.pairwise_append, List.pairwise_cons] at hascending
  obtain ⟨-, ⟨hafter, -⟩, hbefore⟩ := hascending
  rw [h, List.mem_append, List.mem_cons]
  constructor
  · exact fun he' => ⟨.inl he', hbefore _ (List.mem_map_of_mem he') _ List.mem_cons_self⟩
  · rintro ⟨he' | rfl | he', hlt⟩
    · exact he'
    · exact absurd hlt (String.lt_irrefl _)
    · have hgt := hafter _ (List.mem_map_of_mem he')
      exact absurd (String.lt_trans hlt hgt) (String.lt_irrefl _)

/-- An entry is what is found under its name. -/
theorem get?_of_mem {d : Dictionary α} {e : String × α} (h : e ∈ d.entries) :
    d.get? e.1 = some e.2 := by
  obtain ⟨before, after, hsplit⟩ := List.append_of_mem h
  have hnotMem : e.1 ∉ before.map Prod.fst := fun hmem => by
    obtain ⟨e', he', heq⟩ := List.mem_map.1 hmem
    have hlt := ((mem_before_iff hsplit).1 he').2
    rw [heq] at hlt
    exact String.lt_irrefl _ hlt
  rw [get?, hsplit, List.lookup_append, lookup_eq_none_of_notMem hnotMem, Option.none_or,
    List.lookup_cons_self]

/-- **Storing entries** with distinct names one after the other. -/
theorem get?_foldl_insert {entries : List (String × α)} (h : (entries.map Prod.fst).Nodup)
    (d : Dictionary α) (name : String) :
    (entries.foldl (fun d entry => d.insert entry.1 entry.2) d).get? name =
      (entries.lookup name).or (d.get? name) := by
  induction entries generalizing d with
  | nil => rfl
  | cons entry rest ih =>
      obtain ⟨n, a⟩ := entry
      obtain ⟨hn, hrest⟩ := List.nodup_cons.1 h
      rw [List.foldl_cons, ih hrest, get?_insert, List.lookup_cons]
      by_cases hname : name = n
      · subst hname
        rw [lookup_eq_none_of_notMem hn, if_pos rfl, beq_self_eq_true]
        rfl
      · rw [if_neg hname, beq_eq_false_iff_ne.2 hname]

/-- What is found in the dictionary of entries with distinct names. -/
theorem get?_ofList {entries : List (String × α)} (h : (entries.map Prod.fst).Nodup)
    (name : String) : (ofList entries).get? name = entries.lookup name := by
  rw [ofList, get?_foldl_insert h, get?_empty, Option.or_none]

/-- What is found in a dictionary after all of another one has been stored in it. -/
theorem get?_insertAll (d e : Dictionary α) (name : String) :
    (d.insertAll e).get? name = (e.get? name).or (d.get? name) :=
  get?_foldl_insert e.nodup_names d name

end Harvest.Dictionary
