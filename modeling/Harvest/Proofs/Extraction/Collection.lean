import Harvest.Proofs.Extraction.Fault

/-!
# What a Collection Appends

`findAll` gives each accepted element of a top rule a record of its own. This module follows
the list through the search: a computation `Appends` records if it adds the same records to
every list, or fails with the same fault on every list. Accepting an element appends its
record or nothing, and appending composes, so a whole run appends one record for each
accepted element, in the order of the search.

## Main results

* `findAll_eq`: what `findAll` answers and leaves in the list, from the fault of the
  extraction and the records that are collected.
* `fst_find_eq_fst_findAll`: `find` and `findAll` end alike, whatever they write to.
* `findAll_appends_accepted`: every list is extended by the same records, one for each
  accepted element, or left as it was.
-/

namespace Harvest.Extraction

open Html Record

/-! ### Computations that append -/

/-- A computation on a list ends with the given fault whatever the list holds, and without a
fault it gives `answer` and appends `added`. -/
def Appends {ρ α : Type} (m : Writing (List ρ) α) (fault : Option FindError) (answer : α)
    (added : List ρ) : Prop :=
  match fault with
  | none => ∀ records, m records = (.ok answer, records ++ added)
  | some e => ∀ records, (m records).1 = .error e

variable {ρ α β : Type}

theorem Appends.pure (a : α) : Appends (pure a : Writing (List ρ) α) none a [] :=
  fun records => congrArg (Prod.mk _) (List.append_nil records).symm

theorem Appends.throw (e : FindError) (a : α) (added : List ρ) :
    Appends (throw e : Writing (List ρ) α) (some e) a added :=
  fun _ => rfl

/-- Two computations append one after the other; the first fault counts. -/
theorem Appends.bind {m : Writing (List ρ) α} {k : α → Writing (List ρ) β}
    {fault fault' : Option FindError} {a : α} {b : β} {added added' : List ρ}
    (h : Appends m fault a added) (hk : Appends (k a) fault' b added') :
    Appends (m >>= k) (fault.or fault') b (added ++ added') := by
  cases fault with
  | some e =>
      intro records
      exact fst_bind_of_error (h records) k
  | none =>
      rw [Option.none_or]
      cases fault' with
      | some e =>
          intro records
          rw [bind_apply, h records]
          exact hk (records ++ added)
      | none =>
          intro records
          rw [bind_apply, h records, ← List.append_assoc]
          exact hk (records ++ added)

/-! ### Accepting elements into a list -/

variable (filters : Filter.Registry) (τ : RecordType)

/-- Taking a rule on an element ends with the first fault of its bindings, and leaves their
effect on the record. -/
theorem populate_apply (r : Pattern.Rule) (t : ElementTree) (record : τ.Value) :
    populate filters τ r t record =
      ((outcome (firstFault? filters τ (bindings r t))).map fun _ => isAccepted r t,
        (bindAll filters τ (bindings r t) record).2) := by
  have h := fst_bindAll filters τ (bindings r t) record
  rw [populate_eq, bind_apply, ← h]
  rcases bindAll filters τ (bindings r t) record with ⟨_ | _, record'⟩ <;> rfl

/-- The record of an element that a rule accepts: the default record with the bindings of
the rule on the element, and of nothing else. -/
def recordOf (r : Pattern.Rule) (t : ElementTree) : τ.Value :=
  (bindAll filters τ (bindings r t) τ.default).2

/-- The records of a rule: one for each accepted candidate, in postorder. -/
def recordsOf (r : Pattern.Rule) (ts : List ElementTree) : List τ.Value :=
  ((candidates r.heading ts).filter (isAccepted r)).map (recordOf filters τ r)

/-- An element that is offered to a list appends its record if it is accepted. -/
theorem appends_accept (r : Pattern.Rule) (t : ElementTree) :
    Appends (accept filters τ .list r t) (firstFault? filters τ (bindings r t))
      (isAccepted r t) (([t].filter (isAccepted r)).map (recordOf filters τ r)) := by
  have h := populate_apply filters τ r t τ.default
  rw [List.filter_cons, List.filter_nil]
  cases hfault : firstFault? filters τ (bindings r t) with
  | some e =>
      intro records
      rw [accept, h, hfault]
      rfl
  | none =>
      intro records
      rw [accept, h, hfault]
      cases isAccepted r t with
      | false => exact congrArg (Prod.mk _) (List.append_nil records).symm
      | true => rfl

/-- Elements that are offered to a list one after the other append the records of those that
are accepted. -/
theorem appends_mapM_accept (r : Pattern.Rule) (es : List ElementTree) :
    Appends (es.mapM (accept filters τ .list r))
      (firstFault? filters τ (es.flatMap (bindings r))) (es.map (isAccepted r))
      ((es.filter (isAccepted r)).map (recordOf filters τ r)) := by
  induction es with
  | nil => exact Appends.pure []
  | cons t ts ih =>
      have h := (appends_accept filters τ r t).bind
        (k := fun a => do let as ← ts.mapM (accept filters τ .list r); pure (a :: as))
        (ih.bind (Appends.pure (isAccepted r t :: ts.map (isAccepted r))))
      rw [Option.or_none, List.append_nil, ← firstFault?_append, ← List.map_append,
        ← List.filter_append] at h
      rw [List.mapM_cons]
      exact h

/-- The search for a top rule appends its records. -/
theorem appends_search (r : Pattern.Rule) (ts : List ElementTree) :
    Appends (search r.heading (accept filters τ .list r) ts)
      (firstFault? filters τ ((candidates r.heading ts).flatMap (bindings r)))
      (if isMatched r ts then .matched else .noMatch) (recordsOf filters τ r ts) := by
  have h := (appends_mapM_accept filters τ r (candidates r.heading ts)).bind
    (k := fun answers => pure (verdictOf r.heading answers))
    (Appends.pure (verdictOf r.heading ((candidates r.heading ts).map (isAccepted r))))
  rw [Option.or_none, List.append_nil, ← search_eq_mapM_candidates, verdictOf, List.any_map,
    Function.id_comp] at h
  exact h

/-- **Running rules into a list** appends the records of all rules, in order, or ends with
the fault of the rules. -/
theorem appends_runRules (document : Document) (rules : List Pattern.Rule) :
    Appends (runRules filters τ document .list rules) (rulesFault? filters τ document rules) ()
      (rules.flatMap fun r => recordsOf filters τ r [document.root]) := by
  induction rules with
  | nil => exact Appends.pure ()
  | cons r rs ih =>
      have hsearch := appends_search filters τ r [document.root]
      rw [runRules, rulesFault?_cons, List.flatMap_cons]
      cases hmatched : isMatched r [document.root] with
      | true =>
          rw [hmatched] at hsearch
          exact hsearch.bind ih
      | false =>
          rw [hmatched] at hsearch
          exact hsearch.bind (Appends.throw _ _ _)

end Harvest.Extraction

namespace Harvest.Pattern

open Extraction Html Record

/-- The records of an extraction: those of the top rules, one rule after the other. -/
def collected (p : Pattern) (document : Document) (τ : RecordType) : List τ.Value :=
  p.rules.flatMap fun r => recordsOf p.filters τ r [document.root]

/-- **An extraction into a list** ends with the fault of the extraction. Without one it
appends the records of the extraction, and after one the list is as before. -/
theorem findAll_eq (p : Pattern) (document : Document) (τ : RecordType)
    (records : List τ.Value) :
    p.findAll document τ records =
      match p.fault? document τ with
      | none => (.ok (), records ++ p.collected document τ)
      | some e => (.error e, records) := by
  rw [findAll, fault?]
  cases checkFields τ p.rules with
  | error e => rfl
  | ok _ =>
      have hrun := appends_runRules p.filters τ document p.rules
      dsimp only
      cases hfault : rulesFault? p.filters τ document p.rules with
      | none =>
          rw [hfault] at hrun
          rw [hrun []]
          rfl
      | some e =>
          rw [hfault] at hrun
          have hend := hrun []
          rcases hlist : runRules p.filters τ document .list p.rules [] with ⟨result, found⟩
          rw [hlist] at hend
          obtain rfl : result = .error e := hend
          rfl

/-- An extraction into a list ends with the fault of the extraction. -/
theorem fst_findAll (p : Pattern) (document : Document) (τ : RecordType)
    (records : List τ.Value) :
    (p.findAll document τ records).1 = outcome (p.fault? document τ) := by
  rw [findAll_eq]
  cases p.fault? document τ <;> rfl

/-- **Both extractions end alike**: with success, or with the same error, whatever the
record and the list hold. -/
theorem fst_find_eq_fst_findAll (p : Pattern) (document : Document) (τ : RecordType)
    (record : τ.Value) (records : List τ.Value) :
    (p.find document τ record).1 = (p.findAll document τ records).1 := by
  rw [fst_find, fst_findAll]

/-- In an extraction without fault, a rule at the top answers for every candidate as
`isAccepted` says, and leaves the bindings of that candidate in the record. -/
theorem populate_of_fault?_eq_none {p : Pattern} {document : Document} {τ : RecordType}
    (h : p.fault? document τ = none) {r : Rule} (hr : r ∈ p.rules) {t : ElementTree}
    (ht : t ∈ candidates r.heading [document.root]) :
    populate p.filters τ r t τ.default = (.ok (isAccepted r t), recordOf p.filters τ r t) := by
  have hrules : rulesFault? p.filters τ document p.rules = none := by
    rw [fault?] at h
    cases hfields : checkFields τ p.rules with
    | error e => rw [hfields] at h; cases h
    | ok _ => rw [hfields] at h; exact h
  obtain ⟨hfirst, hunmatched⟩ := Option.or_eq_none_iff.1 hrules
  rw [bindingsOfAll_of_isMatched (unmatched?_eq_none_iff.1 hunmatched),
    firstFault?_eq_none_iff] at hfirst
  have hnone : firstFault? p.filters τ (bindings r t) = none := by
    rw [firstFault?_eq_none_iff]
    intro b hb
    exact hfirst b (List.mem_flatMap.2 ⟨r, hr, List.mem_flatMap.2 ⟨t, ht, hb⟩⟩)
  rw [populate_apply, hnone]
  rfl

/-- **What `findAll` appends.** Either there is an error, the same for all lists, and every
list is left as it was. Or every list is extended by the same records: for each rule at the
top in order, and each element that it accepts in postorder, the default record with the
bindings of that element, which are those of its own captures and of the searches for its
child rules. The rule gives the same answers, and leaves the same bindings, when it is taken
on each of its candidates with a default record. -/
theorem findAll_appends_accepted (p : Pattern) (document : Document) (τ : RecordType) :
    (∃ e, ∀ records, p.findAll document τ records = (.error e, records)) ∨
    (∀ records, p.findAll document τ records =
      (.ok (), records ++ p.rules.flatMap fun r =>
        (document.root.postorder.filter fun t =>
          r.heading.selector.matches t.place && isAccepted r t).map fun t =>
            (bindAll p.filters τ (bindings r t) τ.default).2)) ∧
    ∀ r ∈ p.rules, ∀ t ∈ document.root.postorder,
      r.heading.selector.matches t.place = true →
      populate p.filters τ r t τ.default =
        (.ok (isAccepted r t), (bindAll p.filters τ (bindings r t) τ.default).2) := by
  simp only [findAll_eq]
  cases hfault : p.fault? document τ with
  | some e => exact .inl ⟨e, fun _ => rfl⟩
  | none =>
      refine .inr ⟨fun records => ?_, fun r hr t ht hmatch => ?_⟩
      · simp only [collected, recordsOf, candidates_singleton, List.filter_filter,
          Bool.and_comm]
        rfl
      · refine populate_of_fault?_eq_none hfault hr ?_
        rw [candidates_singleton]
        exact List.mem_filter.2 ⟨ht, hmatch⟩

end Harvest.Pattern
