import Harvest.Proofs.Extraction.Bindings
import Harvest.Proofs.Record.Update

/-!
# The Fault of an Extraction

Whether a value can be stored in a field depends on the type of the field and not on what
the record holds. So the fault of a binding is a fact about the binding, and the fault of an
extraction is one about pattern, document and type of record: a field that the type does not
have, else the first fault among the bindings, else the first rule that is required and
accepts nothing.

## Main results

* `fst_bindAll`: storing bindings ends with the first fault among them, whatever the record.
* `fst_find`: an extraction into a record ends with the fault of the extraction.
-/

namespace Harvest.Extraction

open Html Record

/-- The end of a computation with the given fault. -/
def outcome : Option FindError → Except FindError Unit
  | none => .ok ()
  | some e => .error e

/-- A computation goes on after a result and stops at an error. -/
theorem bind_apply {σ α β : Type} (m : Writing σ α) (next : α → Writing σ β) (s : σ) :
    (m >>= next) s =
      match m s with
      | (.ok a, s') => next a s'
      | (.error e, s') => (.error e, s') := by
  change (match m s with | (result, s') => ExceptT.bindCont next result s') = _
  rcases m s with ⟨_ | _, s'⟩ <;> rfl

/-- After a result, a computation goes on from the state that was left. -/
theorem bind_apply_of_ok {σ α β : Type} {m : Writing σ α} {s : σ} {a : α}
    (h : (m s).1 = .ok a) (next : α → Writing σ β) : (m >>= next) s = next a (m s).2 := by
  rw [bind_apply]
  rcases hrun : m s with ⟨result, s'⟩
  rw [hrun] at h
  obtain rfl : result = .ok a := h
  rfl

/-- After an error, a computation ends with it. -/
theorem fst_bind_of_error {σ α β : Type} {m : Writing σ α} {s : σ} {e : FindError}
    (h : (m s).1 = .error e) (next : α → Writing σ β) : ((m >>= next) s).1 = .error e := by
  rw [bind_apply]
  rcases hrun : m s with ⟨result, s'⟩
  rw [hrun] at h
  obtain rfl : result = .error e := h
  rfl

variable (filters : Filter.Registry) (τ : RecordType)

/-- The fault of a binding: a filter that is not there, or a text that the field does not
take. -/
def bindingFault? (b : Binding) : Option FindError :=
  match applyFilters filters b.1.filters b.2 with
  | .error e => some e
  | .ok value =>
      match τ.assign τ.default b.1.field value with
      | .error cause => some (.assign b.1.field cause)
      | .ok _ => none

/-- The first fault among bindings. -/
def firstFault? (bs : List Binding) : Option FindError :=
  bs.findSome? (bindingFault? filters τ)

theorem firstFault?_append (xs ys : List Binding) :
    firstFault? filters τ (xs ++ ys) =
      (firstFault? filters τ xs).or (firstFault? filters τ ys) :=
  List.findSome?_append

theorem firstFault?_eq_none_iff {bs : List Binding} :
    firstFault? filters τ bs = none ↔ ∀ b ∈ bs, bindingFault? filters τ b = none :=
  List.findSome?_eq_none_iff

/-- Storing a value ends with the fault of the binding, whatever the record. -/
theorem fst_bindValue (b : Binding) (record : τ.Value) :
    (bindValue filters τ b.1 b.2 record).1 = outcome (bindingFault? filters τ b) := by
  rw [bindValue, bindingFault?]
  cases applyFilters filters b.1.filters b.2 with
  | error e => rfl
  | ok value =>
      dsimp only
      have hsame := τ.assign_error_iff record τ.default b.1.field value
      cases hrecord : τ.assign record b.1.field value with
      | error cause => rw [(hsame cause).1 hrecord]; rfl
      | ok r =>
          cases hdefault : τ.assign τ.default b.1.field value with
          | error cause => rw [(hsame cause).2 hdefault] at hrecord; cases hrecord
          | ok r' => rfl

/-- **Storing bindings** ends with the first fault among them, whatever the record. -/
theorem fst_bindAll (bs : List Binding) (record : τ.Value) :
    (bindAll filters τ bs record).1 = outcome (firstFault? filters τ bs) := by
  induction bs generalizing record with
  | nil => rfl
  | cons b bs ih =>
      have hb := fst_bindValue filters τ b record
      rw [bindAll, firstFault?, List.findSome?_cons]
      cases hfault : bindingFault? filters τ b with
      | none =>
          rw [hfault] at hb
          rw [bind_apply_of_ok hb]
          exact ih _
      | some e =>
          rw [hfault] at hb
          exact fst_bind_of_error hb _

/-- The fault of running rules: the first one among the bindings, else the first rule that
is required and accepts nothing. -/
def rulesFault? (document : Document) (rules : List Pattern.Rule) : Option FindError :=
  (firstFault? filters τ (bindingsOfAll rules [document.root])).or
    (unmatched? rules [document.root])

/-- A rule before others has the first fault of its own bindings, else its own if it does not
match, and else that of the others. -/
theorem rulesFault?_cons (document : Document) (r : Pattern.Rule) (rs : List Pattern.Rule) :
    rulesFault? filters τ document (r :: rs) =
      (firstFault? filters τ
        ((candidates r.heading [document.root]).flatMap (bindings r))).or
        (if isMatched r [document.root] then rulesFault? filters τ document rs
          else some (.noMatch r.heading.selectorText)) := by
  rw [rulesFault?, bindingsOfAll, unmatched?_cons, firstFault?_append, Option.or_assoc]
  cases isMatched r [document.root] <;> rfl

/-- Rules after others count for the fault only if the others have none. -/
theorem rulesFault?_append (document : Document) (rules rules' : List Pattern.Rule) :
    rulesFault? filters τ document (rules ++ rules') =
      (rulesFault? filters τ document rules).or (rulesFault? filters τ document rules') := by
  induction rules with
  | nil => rfl
  | cons r rs ih =>
      rw [List.cons_append, rulesFault?_cons, rulesFault?_cons, ih, Option.or_assoc]
      cases isMatched r [document.root] <;> rfl

/-- Running rules into a record ends with the fault of the rules. -/
theorem fst_runRules_record (document : Document) (rules : List Pattern.Rule)
    (record : τ.Value) :
    (runRules filters τ document .record rules record).1 =
      outcome (rulesFault? filters τ document rules) := by
  have hbind := fst_bindAll filters τ (bindingsOfAll rules [document.root]) record
  rw [runRules_record_eq, rulesFault?]
  cases hfault : firstFault? filters τ (bindingsOfAll rules [document.root]) with
  | some e =>
      rw [hfault] at hbind
      exact fst_bind_of_error hbind _
  | none =>
      rw [hfault] at hbind
      rw [bind_apply_of_ok hbind, Option.none_or]
      cases unmatched? rules [document.root] <;> rfl

end Harvest.Extraction

namespace Harvest.Pattern

open Extraction Html Record

/-- The fault of an extraction, if it has one: a field that the type of record does not
have, else the fault of the rules. -/
def fault? (p : Pattern) (document : Document) (τ : RecordType) : Option FindError :=
  match checkFields τ p.rules with
  | .error e => some e
  | .ok () => rulesFault? p.filters τ document p.rules

/-- **An extraction into a record** ends with the fault of the extraction. -/
theorem fst_find (p : Pattern) (document : Document) (τ : RecordType) (record : τ.Value) :
    (p.find document τ record).1 = outcome (p.fault? document τ) := by
  rw [find, fault?]
  cases checkFields τ p.rules with
  | error e => rfl
  | ok _ => exact fst_runRules_record p.filters τ document p.rules record

end Harvest.Pattern
