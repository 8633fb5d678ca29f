import Harvest.Proofs.Extraction.Collection
import Harvest.Proofs.Pattern.Nesting
import Harvest.Proofs.Record.Refusal

/-!
# The Targets of a Pattern

Everything that an extraction stores goes to a target of the pattern, that is, to one that some
capture of some rule names, at whatever depth. This module lists the targets in the order of the
source, and traces faults to where they come from: to a target and a value that was captured for
it, or to a rule that matches nothing.

## Main results

* `target_mem_of_mem_bindings`: values are bound to targets of the rules.
* `bindingFault?_eq_some_iff`: why a value cannot be stored.
* `exists_mem_of_unmatched?`: the fault of rules without a match is about one of them.
-/

namespace Harvest.Pattern

namespace Rule

/-- The targets of a list of rules and of all rules below them, in the order of the source. -/
def targetsOfList (rs : List Rule) : List Target :=
  (headingsOfList rs).flatMap fun h => h.captures.flatMap Capture.targets

/-- The targets of two lists of rules come one after the other. -/
theorem targetsOfList_append (rs rs' : List Rule) :
    targetsOfList (rs ++ rs') = targetsOfList rs ++ targetsOfList rs' := by
  rw [targetsOfList, headingsOfList_append, List.flatMap_append]
  rfl

/-- The targets of a rule, without those of the rules below it. -/
def ownTargets (r : Rule) : List Target :=
  r.heading.captures.flatMap Capture.targets

/-- The targets of a rule come before those of the rules below it and of the rules after
it. -/
theorem targetsOfList_cons (r : Rule) (rs : List Rule) :
    targetsOfList (r :: rs) =
      r.ownTargets ++ (targetsOfList r.children ++ targetsOfList rs) := by
  obtain ⟨heading, children⟩ := r
  rw [targetsOfList, headingsOfList, headings, List.cons_append, List.flatMap_cons,
    List.flatMap_append]
  rfl

/-- The order of rules makes no difference to which targets they have. -/
theorem mem_targetsOfList_reverse {rs : List Rule} {t : Target} :
    t ∈ targetsOfList rs.reverse ↔ t ∈ targetsOfList rs := by
  induction rs with
  | nil => exact Iff.rfl
  | cons r rs ih =>
      have hcons : targetsOfList (r :: rs) = targetsOfList [r] ++ targetsOfList rs :=
        targetsOfList_append [r] rs
      rw [List.reverse_cons, targetsOfList_append, hcons, List.mem_append, List.mem_append, ih]
      exact or_comm

theorem length_headingsOfList_reverse (rs : List Rule) :
    (headingsOfList rs.reverse).length = (headingsOfList rs).length := by
  induction rs with
  | nil => rfl
  | cons r rs ih =>
      rw [List.reverse_cons, headingsOfList_append, List.length_append, ih, headingsOfList,
        headingsOfList, headingsOfList, List.append_nil, List.length_append, Nat.add_comm]

end Rule

/-- The targets of a pattern, in the order of the source. -/
def targets (p : Pattern) : List Target :=
  Rule.targetsOfList p.rules

end Harvest.Pattern

namespace Harvest.Extraction

open Html Record
open Pattern.Rule (targetsOfList headingsOfList)

/-! ### The targets of bindings -/

/-- Groups are paired with targets of their capture. -/
theorem target_mem_of_mem_pairGroups {ts : List Pattern.Target} {groups : List (Option String)}
    {b : Binding} (h : b ∈ pairGroups ts groups) : b.1 ∈ ts := by
  induction ts generalizing groups with
  | nil => cases h
  | cons t ts ih =>
      rw [pairGroups, List.mem_cons] at h
      rcases h with rfl | h
      · exact List.mem_cons_self
      · exact List.mem_cons_of_mem t (ih h)

/-- The values of a capture are for its targets. -/
theorem target_mem_of_captured? {p : Place} {c : Pattern.Capture} {values : List Binding}
    (h : captured? p c = some values) {b : Binding} (hb : b ∈ values) : b.1 ∈ c.targets := by
  rw [captured?] at h
  split at h
  · cases h
  · split at h
    · obtain rfl := Option.some.inj h
      obtain ⟨t, ht, rfl⟩ := List.mem_map.1 hb
      exact ht
    · split at h
      · cases h
      · obtain ⟨groups, -, rfl⟩ := Option.map_eq_some_iff.1 h
        exact target_mem_of_mem_pairGroups hb

/-- What captures bind, they bind to their targets. -/
theorem target_mem_of_mem_captureBindings {p : Place} {cs : List Pattern.Capture} {b : Binding}
    (h : b ∈ captureBindings p cs) : b.1 ∈ cs.flatMap Pattern.Capture.targets := by
  induction cs with
  | nil => cases h
  | cons c cs ih =>
      rw [captureBindings] at h
      rw [List.flatMap_cons]
      split at h
      · cases h
      · rename_i values hvalues
        rcases List.mem_append.1 h with h | h
        · exact List.mem_append_left _ (target_mem_of_captured? hvalues h)
        · exact List.mem_append_right _ (ih h)

mutual

/-- **Values are bound to targets** of the rule that is taken, or of a rule below it. -/
theorem target_mem_of_mem_bindings : ∀ (r : Pattern.Rule) {t : ElementTree} {b : Binding},
    b ∈ bindings r t → b.1 ∈ targetsOfList [r]
  | .mk heading children, t, b, h => by
      rw [Pattern.Rule.targetsOfList_cons, List.mem_append, List.mem_append]
      rw [bindings] at h
      rcases List.mem_append.1 h with h | h
      · exact .inl (target_mem_of_mem_captureBindings h)
      · split at h
        · exact .inr (.inl (target_mem_of_mem_bindingsOfAll children h))
        · cases h

/-- Values are bound to targets of the rules that are searched for. -/
theorem target_mem_of_mem_bindingsOfAll : ∀ (rs : List Pattern.Rule) {ts : List ElementTree}
    {b : Binding}, b ∈ bindingsOfAll rs ts → b.1 ∈ targetsOfList rs
  | [], ts, b, h => by
      rw [bindingsOfAll] at h
      cases h
  | r :: rs, ts, b, h => by
      have hcons : targetsOfList (r :: rs) = targetsOfList [r] ++ targetsOfList rs :=
        Pattern.Rule.targetsOfList_append [r] rs
      rw [hcons, List.mem_append]
      rw [bindingsOfAll] at h
      rcases List.mem_append.1 h with h | h
      · obtain ⟨t, -, h⟩ := List.mem_flatMap.1 h
        exact .inl (target_mem_of_mem_bindings r h)
      · split at h
        · exact .inr (target_mem_of_mem_bindingsOfAll rs h)
        · cases h

end

/-! ### Where faults come from -/

section

variable {filters : Filter.Registry} {τ : RecordType}

/-- Filters fail only where a name is not there. -/
theorem exists_of_applyFilters_error {names : List String} {value : String} {e : FindError}
    (h : applyFilters filters names value = .error e) :
    ∃ name ∈ names, filters.resolve? name = none ∧ e = .unknownFilter name := by
  induction names generalizing value with
  | nil => cases h
  | cons name names ih =>
      rw [applyFilters] at h
      split at h
      · rename_i hnone
        exact ⟨name, List.mem_cons_self, hnone, (Except.error.inj h).symm⟩
      · obtain ⟨name', hname', hnone, he⟩ := ih h
        exact ⟨name', List.mem_cons_of_mem name hname', hnone, he⟩

/-- **A value cannot be stored** because a filter of its target is not there, or because the
field refuses what the filters make of it. -/
theorem bindingFault?_eq_some_iff {b : Binding} {e : FindError} :
    bindingFault? filters τ b = some e ↔
      applyFilters filters b.1.filters b.2 = .error e ∨
        ∃ value cause, applyFilters filters b.1.filters b.2 = .ok value ∧
          τ.assign τ.default b.1.field value = .error cause ∧
          e = .assign b.1.field cause := by
  rw [bindingFault?]
  cases applyFilters filters b.1.filters b.2 with
  | error e' => simp
  | ok value =>
      dsimp only
      cases hassign : τ.assign τ.default b.1.field value <;> simp [hassign, eq_comm]

end

/-- The fault of rules without a match is about one of them. -/
theorem exists_mem_of_unmatched? {rules : List Pattern.Rule} {ts : List ElementTree}
    {e : FindError} (h : unmatched? rules ts = some e) :
    ∃ r ∈ rules, e = .noMatch r.heading.selectorText := by
  obtain ⟨r, hfind, rfl⟩ := Option.map_eq_some_iff.1 h
  exact ⟨r, List.mem_of_find?_eq_some hfind, rfl⟩

end Harvest.Extraction
