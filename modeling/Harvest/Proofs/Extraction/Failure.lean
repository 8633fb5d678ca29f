import Mathlib.Data.List.Basic
import Harvest.Proofs.Extraction.Gate

/-!
# Where an Extraction Stops

An extraction does two kinds of things that can fail: it looks up the filters of a target, and
it stores texts in fields. Which of these things are due, and in which order, is settled by the
pattern and the document, because it takes no failure to know which elements are accepted. The
actions of an extraction are those of its bindings, one after the other, and a binding looks its
filters up from left to right before its value is stored.

A failure ends everything, wherever it occurs: whether the rule is optional, and whether the
element would have been rejected later on, makes no difference. So an extraction that passes
the check of its fields ends with the first failure among its actions, and only if there is none
does it matter which rules have matched.

## Main results

* `firstFault?_eq_some_iff`: the first fault of bindings is the first failure among their
  actions.
* `fault?_eq_some_iff`: every error of an extraction has one of three reasons.
* `stops_at_first_failure`: failures of an extraction are neither lost nor made up.
-/

namespace Harvest.Filter.Registry

/-- A name calls no filter if it is neither registered nor that of a builtin. -/
theorem resolve?_eq_none_iff {r : Registry} {name : String} :
    r.resolve? name = none ↔ r.filters.get? name = none ∧ builtin? name = none := by
  rw [resolve?]
  cases r.filters.get? name <;> simp

end Harvest.Filter.Registry

namespace Harvest.Extraction

open Html Record

/-! ### Actions -/

/-- A thing that an extraction does and that can fail. -/
inductive Action where
  /-- A filter is looked up. -/
  | lookUp (name : String)
  /-- A text is stored in a field. -/
  | store (field text : String)
  deriving DecidableEq, Repr

/-- What is done with a value for a field: its filters are looked up from left to right, each
one being applied before the next one is looked up, and what they make of the value is stored.
Nothing comes after a filter that is not there. -/
def actionsFor (filters : Filter.Registry) (field : String) : (names : List String) →
    (value : String) → List Action
  | [], value => [.store field value]
  | name :: names, value =>
      .lookUp name ::
        match filters.resolve? name with
        | none => []
        | some filter => actionsFor filters field names (filter value)

/-- What is done with bindings, one after the other. -/
def actionsOf (filters : Filter.Registry) (bs : List Binding) : List Action :=
  bs.flatMap fun b => actionsFor filters b.1.field b.1.filters b.2

variable (filters : Filter.Registry) (τ : RecordType)

/-- How actions fail: a filter that is looked up is neither registered nor builtin, or a record
refuses the text that is stored. -/
inductive Action.Fails : Action → FindError → Prop where
  /-- There is no filter of that name. -/
  | lookUp {name : String} (unregistered : filters.filters.get? name = none)
      (notBuiltin : Filter.builtin? name = none) :
      Fails (.lookUp name) (.unknownFilter name)
  /-- The record refuses the text. -/
  | store {field text : String} {record : τ.Value} {cause : FieldError}
      (refused : τ.assign record field text = .error cause) :
      Fails (.store field text) (.assign field cause)

/-- The first failure among actions: one of them fails so, and none before it fails. -/
def FirstFailure (actions : List Action) (e : FindError) : Prop :=
  ∃ before a after, actions = before ++ a :: after ∧
    (∀ b ∈ before, ∀ e', ¬ b.Fails filters τ e') ∧ a.Fails filters τ e

/-- The failure of an action, if it fails. -/
def Action.failure? : Action → Option FindError
  | .lookUp name =>
      match filters.resolve? name with
      | none => some (.unknownFilter name)
      | some _ => none
  | .store field text =>
      match τ.assign τ.default field text with
      | .error cause => some (.assign field cause)
      | .ok _ => none

variable {filters τ}

theorem Action.failure?_eq_some_iff {a : Action} {e : FindError} :
    a.failure? filters τ = some e ↔ a.Fails filters τ e := by
  constructor
  · intro h
    cases a with
    | lookUp name =>
        rw [failure?] at h
        split at h
        · rename_i hnone
          obtain rfl := Option.some.inj h
          obtain ⟨hget, hbuiltin⟩ := Filter.Registry.resolve?_eq_none_iff.1 hnone
          exact .lookUp hget hbuiltin
        · cases h
    | store field text =>
        rw [failure?] at h
        split at h
        · rename_i cause hrefused
          obtain rfl := Option.some.inj h
          exact .store hrefused
        · cases h
  · intro h
    cases h with
    | @lookUp name hget hbuiltin =>
        have hnone := Filter.Registry.resolve?_eq_none_iff.2 ⟨hget, hbuiltin⟩
        rw [failure?, hnone]
    | @store field text record cause hrefused =>
        -- which record refuses the text makes no difference
        have hdefault := (τ.assign_error_iff record τ.default field text cause).1 hrefused
        rw [failure?, hdefault]

theorem Action.failure?_eq_none_iff {a : Action} :
    a.failure? filters τ = none ↔ ∀ e, ¬ a.Fails filters τ e := by
  rw [Option.eq_none_iff_forall_ne_some]
  exact forall_congr' fun e => not_congr failure?_eq_some_iff

/-- The first failure is the one that a search among the actions finds. -/
theorem firstFailure_iff_findSome? {actions : List Action} {e : FindError} :
    FirstFailure filters τ actions e ↔
      actions.findSome? (Action.failure? filters τ) = some e := by
  rw [List.findSome?_eq_some_iff, FirstFailure]
  constructor
  · rintro ⟨before, a, after, hactions, hbefore, ha⟩
    exact ⟨before, a, after, hactions, Action.failure?_eq_some_iff.2 ha,
      fun b hb => Action.failure?_eq_none_iff.2 (hbefore b hb)⟩
  · rintro ⟨before, a, after, hactions, ha, hbefore⟩
    exact ⟨before, a, after, hactions,
      fun b hb => Action.failure?_eq_none_iff.1 (hbefore b hb),
      Action.failure?_eq_some_iff.1 ha⟩

/-! ### The actions of bindings -/

/-- The fault of a binding is the first failure of what is done with it. -/
theorem findSome?_actionsFor (t : Pattern.Target) (value : String) :
    (actionsFor filters t.field t.filters value).findSome? (Action.failure? filters τ) =
      bindingFault? filters τ (t, value) := by
  obtain ⟨field, names⟩ := t
  induction names generalizing value with
  | nil => exact List.findSome?_singleton
  | cons name names ih =>
      rw [actionsFor, List.findSome?_cons, Action.failure?, bindingFault?, applyFilters]
      cases filters.resolve? name with
      | none => rfl
      | some filter => exact ih (filter value)

theorem firstFault?_eq_findSome? (bs : List Binding) :
    firstFault? filters τ bs =
      (actionsOf filters bs).findSome? (Action.failure? filters τ) := by
  induction bs with
  | nil => rfl
  | cons b bs ih =>
      rw [firstFault?, List.findSome?_cons, actionsOf, List.flatMap_cons,
        List.findSome?_append, findSome?_actionsFor, ← actionsOf, ← ih]
      cases bindingFault? filters τ b <;> rfl

/-- **The first fault of bindings** is the first failure among their actions. -/
theorem firstFault?_eq_some_iff {bs : List Binding} {e : FindError} :
    firstFault? filters τ bs = some e ↔ FirstFailure filters τ (actionsOf filters bs) e := by
  rw [firstFault?_eq_findSome?, firstFailure_iff_findSome?]

end Harvest.Extraction

namespace Harvest.Pattern

open Extraction Html Record

/-- What an extraction does as long as nothing fails, in order. The rules at the top come one
after the other, each with the elements that its selector matches, children before their
parents. An element has its captures first, each with its targets in order, up to the first
capture that does not resolve, and then the child rules in the same way, up to the first one
that is required and accepts nothing. -/
def actions (p : Pattern) (document : Document) : List Action :=
  actionsOf p.filters (bindingsOfAll p.rules [document.root])

/-- **Every error of an extraction** has one of three reasons: the check of its fields, the
first failure among its actions, or, if there is none, the first rule that is required and
accepts nothing. -/
theorem fault?_eq_some_iff {p : Pattern} {document : Document} {τ : RecordType} {e : FindError} :
    p.fault? document τ = some e ↔
      checkFields τ p.rules = .error e ∨
      checkFields τ p.rules = .ok () ∧
        (FirstFailure p.filters τ (p.actions document) e ∨
          (∀ a ∈ p.actions document, ∀ e', ¬ a.Fails p.filters τ e') ∧
            unmatched? p.rules [document.root] = some e) := by
  have hnone : firstFault? p.filters τ (bindingsOfAll p.rules [document.root]) = none ↔
      ∀ a ∈ p.actions document, ∀ e', ¬ a.Fails p.filters τ e' := by
    rw [firstFault?_eq_findSome?, List.findSome?_eq_none_iff]
    exact forall₂_congr fun a _ => Action.failure?_eq_none_iff
  rw [fault?]
  cases checkFields τ p.rules with
  | error e' => simp
  | ok _ =>
      dsimp only
      rw [rulesFault?, Option.or_eq_some_iff, firstFault?_eq_some_iff, hnone]
      simp [actions]

/-- **Failures are neither lost nor made up.** If the fields of a pattern pass the check, the
first failure among the actions of an extraction is what it ends with, into a record or into a
list, and the list is left as it was.

Conversely, an unknown filter that is reported is one of a target of the pattern, and neither
registered nor builtin. Any refusal that is reported, other than of an unknown field, is one of
a value that was captured for a target of the pattern and has passed through the target's
filters: the first field that answers to the target's name refuses it, as not a number of the
field's kind or as one out of range. And if all filters of the targets are there, an
extraction into dynamic records can only fail for want of a match. -/
theorem stops_at_first_failure (p : Pattern) (document : Document) (τ : RecordType) :
    (checkFields τ p.rules = .ok () →
      ∀ e, FirstFailure p.filters τ (p.actions document) e →
        ∀ (record : τ.Value) (records : List τ.Value),
          (p.find document τ record).1 = .error e ∧
          p.findAll document τ records = (.error e, records)) ∧
    ∀ (record : τ.Value) (records : List τ.Value) (e : FindError),
      (p.find document τ record).1 = .error e ∨ (p.findAll document τ records).1 = .error e →
      (∀ name, e = .unknownFilter name →
        (∃ t ∈ p.targets, name ∈ t.filters) ∧
          p.filters.filters.get? name = none ∧ Filter.builtin? name = none) ∧
      (∀ field cause, e = .assign field cause → (∀ name, cause ≠ .unknownField name) →
        ∃ t ∈ p.targets, t.field = field ∧
          ∃ raw value, (t, raw) ∈ bindingsOfAll p.rules [document.root] ∧
            applyFilters p.filters t.filters raw = .ok value ∧
            ∃ f, fieldFor? τ.fields field = some f ∧
              f.type.assign f.type.default value = .error cause ∧
              cause.Tells value f.type.kind) ∧
      (τ = .dynamic → (∀ t ∈ p.targets, ∀ name ∈ t.filters, p.filters.resolve? name ≠ none) →
        ∃ r ∈ p.rules, e = .noMatch r.heading.selectorText) := by
  constructor
  · intro hcheck e hfirst record records
    have hfault : p.fault? document τ = some e :=
      fault?_eq_some_iff.2 (.inr ⟨hcheck, .inl hfirst⟩)
    refine ⟨((p.fst_eq_error_iff document τ e record records).1).2 hfault, ?_⟩
    rw [findAll_eq, hfault]
  · intro record records e herror
    have hiff := p.fst_eq_error_iff document τ e record records
    have hfault : p.fault? document τ = some e := herror.elim hiff.1.1 hiff.2.1
    cases reason_of_fault? hfault with
    | @undeclared t ht hnamed hnot =>
        refine ⟨nofun, fun field cause heq hknown => ?_, fun hdynamic => ?_⟩
        · cases heq
          exact absurd rfl (hknown t.field)
        · subst hdynamic
          exact absurd rfl hnamed
    | @unknownFilter t name ht hname hnone =>
        refine ⟨fun name' heq => ?_, nofun, fun _ hall => absurd hnone (hall t ht name hname)⟩
        cases heq
        exact ⟨⟨t, ht, hname⟩, Filter.Registry.resolve?_eq_none_iff.1 hnone⟩
    | @refused t raw value cause ht hb hvalue hrefused =>
        refine ⟨nofun, fun field cause' heq hknown => ?_, fun hdynamic => ?_⟩
        · cases heq
          rcases RecordType.assign_eq_error_iff.1 hrefused with ⟨-, -, hunknown⟩ | ⟨f, hf, hfield⟩
          · exact absurd hunknown (hknown t.field)
          · exact ⟨t, ht, rfl, raw, value, hb, hvalue, f, hf, hfield,
              FieldType.eq_of_assign_error hfield⟩
        · subst hdynamic
          cases hrefused
    | @noMatch r hr => exact ⟨nofun, nofun, fun _ _ => ⟨r, hr, rfl⟩⟩

/-- The theorem at the second filter of a target, which is not there, in an item of an optional
rule that would be rejected for want of a child. The item after it would be accepted. -/
theorem stops_in_rejected_item :
    ∃ q, compile "ul\n\t?li (text A.nocomma.nope)\n\t\tb" = .ok q ∧
      q.actions (Document.parse "<ul><li>x<li><b>y</b></ul>") =
        [.lookUp "nocomma", .lookUp "nope", .lookUp "nocomma", .lookUp "nope"] ∧
      (q.find (Document.parse "<ul><li>x<li><b>y</b></ul>") .dynamic .empty).1 =
        .error (.unknownFilter "nope") ∧
      q.findAll (Document.parse "<ul><li>x<li><b>y</b></ul>") .dynamic [] =
        (.error (.unknownFilter "nope"), []) := by
  have heval : (compile "ul\n\t?li (text A.nocomma.nope)\n\t\tb").map (fun q =>
      (q.actions (Document.parse "<ul><li>x<li><b>y</b></ul>"),
        (q.filters.filters.get? "nope").isNone)) =
      .ok ([.lookUp "nocomma", .lookUp "nope", .lookUp "nocomma", .lookUp "nope"], true) := by
    decide +kernel
  obtain ⟨q, hq, heq⟩ := map_eq_ok_iff.1 heval
  obtain ⟨hactions, hget⟩ := Prod.mk.inj heq
  have hbefore : ∀ b ∈ [Action.lookUp "nocomma"], ∀ e, ¬ b.Fails q.filters .dynamic e := by
    intro b hb e hfails
    obtain rfl := List.mem_singleton.1 hb
    cases hfails with
    | lookUp _ hbuiltin => exact absurd hbuiltin (by decide)
  have hfails : (Action.lookUp "nope").Fails q.filters .dynamic (.unknownFilter "nope") :=
    .lookUp (Option.isNone_iff_eq_none.1 hget) (by decide)
  have hfirst : FirstFailure q.filters .dynamic
      (q.actions (Document.parse "<ul><li>x<li><b>y</b></ul>")) (.unknownFilter "nope") :=
    ⟨[.lookUp "nocomma"], .lookUp "nope", _, hactions, hbefore, hfails⟩
  exact ⟨q, hq, hactions,
    (stops_at_first_failure q _ .dynamic).1 rfl (.unknownFilter "nope") hfirst .empty []⟩

end Harvest.Pattern
