import Mathlib.Data.List.Basic
import Harvest.Proofs.Extraction.Targets

/-!
# Marking Rules as Optional

A pattern can be made less demanding by marking more of its rules as optional, at the top or
anywhere below. The elements that come into question are the same as before, since selectors do
not change, but more searches come out as matched. So an element gets as far as it got before, or
further: to later captures and child rules, and to bindings that were never made. What is
written differs, but no element that was accepted is lost.

A rule is marked by its *address*: the position of a rule at the top, then the position of a
child at each step.

## Main results

* `isAccepted_markOptional`: what a rule accepts it accepts with more marks.
* `rulesFault?_dynamic_eq_none_iff`: when rules run into dynamic records without a fault.
* `markOptional_monotone`: marks lose no element, no record and no success.
-/

namespace Harvest.Pattern

namespace Rule

mutual

/-- A rule with more rules marked as optional: the rule itself if `marked` holds of the empty
address, and the rules below it that `marked` holds of. -/
def markOptional (marked : List Nat → Bool) : Rule → Rule
  | .mk heading children =>
      .mk { heading with optional := heading.optional || marked [] }
        (markOptionalList (fun i address => marked (i :: address)) children)

/-- A list of rules with more rules marked as optional; `marked` takes the position of a rule in
the list, and an address from there. -/
def markOptionalList (marked : Nat → List Nat → Bool) : List Rule → List Rule
  | [] => []
  | r :: rs => r.markOptional (marked 0) :: markOptionalList (fun i => marked (i + 1)) rs

end

theorem getElem?_markOptionalList (marked : Nat → List Nat → Bool) (rs : List Rule) (i : Nat) :
    (markOptionalList marked rs)[i]? = rs[i]?.map (markOptional (marked i)) := by
  induction rs generalizing marked i with
  | nil => rfl
  | cons r rs ih =>
      rw [markOptionalList]
      cases i with
      | zero => rfl
      | succ i => exact ih (fun i => marked (i + 1)) i

mutual

/-- Marks leave the targets of a rule as they are. -/
theorem targetsOfList_markOptional : ∀ (marked : List Nat → Bool) (r : Rule),
    targetsOfList [r.markOptional marked] = targetsOfList [r]
  | marked, .mk heading children => by
      have hbelow :=
        targetsOfList_markOptionalList (fun i address => marked (i :: address)) children
      rw [markOptional, targetsOfList_cons, targetsOfList_cons]
      exact congrArg (fun ts => _ ++ (ts ++ _)) hbelow

/-- Marks leave the targets of rules as they are. -/
theorem targetsOfList_markOptionalList : ∀ (marked : Nat → List Nat → Bool) (rs : List Rule),
    targetsOfList (markOptionalList marked rs) = targetsOfList rs
  | _, [] => rfl
  | marked, r :: rs => by
      have hfirst := targetsOfList_markOptional (marked 0) r
      have hrest := targetsOfList_markOptionalList (fun i => marked (i + 1)) rs
      have hcons : ∀ r' rs', targetsOfList (r' :: rs') = targetsOfList [r'] ++ targetsOfList rs' :=
        fun r' rs' => targetsOfList_append [r'] rs'
      rw [markOptionalList, hcons, hcons r, hfirst, hrest]

end

end Rule

/-- A pattern with more rules marked as optional: those whose addresses `marked` holds of. -/
def markOptional (p : Pattern) (marked : List Nat → Bool) : Pattern :=
  { p with rules := Rule.markOptionalList (fun i address => marked (i :: address)) p.rules }

end Harvest.Pattern

namespace Harvest.Extraction

open Html Record
open Pattern.Rule (markOptionalList)

/-! ### What rules accept -/

/-- Marks leave the candidates of a rule as they are. -/
theorem candidates_markOptional (marked : List Nat → Bool) (r : Pattern.Rule)
    (ts : List ElementTree) :
    candidates (r.markOptional marked).heading ts = candidates r.heading ts := by
  obtain ⟨heading, children⟩ := r
  rfl

/-- A rule that is optional stays optional. -/
theorem optional_markOptional {marked : List Nat → Bool} {r : Pattern.Rule}
    (h : r.heading.optional = true) : (r.markOptional marked).heading.optional = true := by
  obtain ⟨heading, children⟩ := r
  exact Bool.or_eq_true_iff.2 (.inl h)

/-- A rule that accepts no less, on the same candidates, matches wherever it matched. -/
theorem isMatched_markOptional {marked : List Nat → Bool} {r : Pattern.Rule}
    (h : ∀ t, isAccepted r t = true → isAccepted (r.markOptional marked) t = true)
    {ts : List ElementTree} (hmatched : isMatched r ts = true) :
    isMatched (r.markOptional marked) ts = true := by
  rw [isMatched, Bool.or_eq_true, List.any_eq_true] at hmatched ⊢
  rw [candidates_markOptional]
  rcases hmatched with hoptional | ⟨t, ht, haccepted⟩
  · exact .inl (optional_markOptional hoptional)
  · exact .inr ⟨t, ht, h t haccepted⟩

mutual

/-- **What a rule accepts** it accepts with more marks. -/
theorem isAccepted_markOptional : ∀ (marked : List Nat → Bool) (r : Pattern.Rule)
    (t : ElementTree), isAccepted r t = true → isAccepted (r.markOptional marked) t = true
  | marked, .mk heading children, t, h => by
      rw [isAccepted, Bool.and_eq_true] at h
      obtain ⟨hcaptures, hchildren⟩ := h
      rw [Pattern.Rule.markOptional, isAccepted, Bool.and_eq_true]
      exact ⟨hcaptures, allMatched_markOptionalList _ children t.children hchildren⟩

/-- Rules that all match do so with more marks. -/
theorem allMatched_markOptionalList : ∀ (marked : Nat → List Nat → Bool)
    (rs : List Pattern.Rule) (ts : List ElementTree),
    allMatched rs ts = true → allMatched (markOptionalList marked rs) ts = true
  | _, [], _, h => h
  | marked, r :: rs, ts, h => by
      rw [allMatched_cons, Bool.and_eq_true] at h
      obtain ⟨hr, hrs⟩ := h
      rw [markOptionalList, allMatched_cons, Bool.and_eq_true]
      exact ⟨isMatched_markOptional (isAccepted_markOptional (marked 0) r) hr,
        allMatched_markOptionalList _ rs ts hrs⟩

end

/-- A list of rules is matched if every rule in it is. -/
theorem allMatched_eq_true_iff {rs : List Pattern.Rule} {ts : List ElementTree} :
    allMatched rs ts = true ↔ ∀ r ∈ rs, isMatched r ts = true := by
  induction rs with
  | nil => simp [allMatched]
  | cons r rs ih => rw [allMatched_cons, Bool.and_eq_true, ih, List.forall_mem_cons]

theorem outcome_eq_ok_iff {fault? : Option FindError} :
    outcome fault? = .ok () ↔ fault? = none := by
  cases fault? <;> simp [outcome]

/-! ### Extractions into dynamic records -/

/-- All filters that rules call are there. -/
def FiltersResolve (filters : Filter.Registry) (rules : List Pattern.Rule) : Prop :=
  ∀ t ∈ Pattern.Rule.targetsOfList rules, ∀ name ∈ t.filters, filters.resolve? name ≠ none

section

variable {filters : Filter.Registry} {rules : List Pattern.Rule}

/-- Marking rules adds no filters to resolve. -/
theorem FiltersResolve.markOptionalList (h : FiltersResolve filters rules)
    (marked : Nat → List Nat → Bool) :
    FiltersResolve filters (Pattern.Rule.markOptionalList marked rules) := by
  rw [FiltersResolve, Pattern.Rule.targetsOfList_markOptionalList]
  exact h

/-- What holds of the filters of rules holds of those of each one. -/
theorem FiltersResolve.of_mem (h : FiltersResolve filters rules) {r : Pattern.Rule}
    (hr : r ∈ rules) : FiltersResolve filters [r] := by
  obtain ⟨before, after, rfl⟩ := List.append_of_mem hr
  intro t ht
  refine h t ?_
  rw [Pattern.Rule.targetsOfList_append, ← List.singleton_append,
    Pattern.Rule.targetsOfList_append]
  exact List.mem_append_right _ (List.mem_append_left _ ht)

/-- Values whose filters are all there can be stored in a dynamic record. -/
theorem firstFault?_dynamic_eq_none {bs : List Binding}
    (h : ∀ b ∈ bs, ∀ name ∈ b.1.filters, filters.resolve? name ≠ none) :
    firstFault? filters .dynamic bs = none := by
  rw [firstFault?_eq_none_iff]
  intro b hb
  rw [Option.eq_none_iff_forall_ne_some]
  intro e he
  rcases bindingFault?_eq_some_iff.1 he with hfilters | ⟨value, cause, -, hassign, -⟩
  · obtain ⟨name, hname, hnone, -⟩ := exists_of_applyFilters_error hfilters
    exact h b hb name hname hnone
  · cases hassign

/-- **Rules that run into dynamic records** and whose filters are all there fail only for want
of a match. -/
theorem rulesFault?_dynamic_eq_none_iff (h : FiltersResolve filters rules)
    (document : Document) :
    rulesFault? filters .dynamic document rules = none ↔
      allMatched rules [document.root] = true := by
  have hfirst : firstFault? filters .dynamic (bindingsOfAll rules [document.root]) = none :=
    firstFault?_dynamic_eq_none fun b hb => h b.1 (target_mem_of_mem_bindingsOfAll rules hb)
  rw [rulesFault?, hfirst, Option.none_or, unmatched?_eq_none_iff, allMatched_eq_true_iff]

end

/-- An element is answered for as its bindings can be stored and as it is accepted, whichever
sink its values go to. -/
theorem fst_accept (filters : Filter.Registry) (τ : RecordType) (sink : Sink)
    (r : Pattern.Rule) (t : ElementTree) (state : sink.State τ) :
    (accept filters τ sink r t state).1 =
      (outcome (firstFault? filters τ (bindings r t))).map fun _ => isAccepted r t := by
  cases sink with
  | record =>
      rw [accept, populate_apply]
  | list =>
      rw [accept, populate_apply]
      cases firstFault? filters τ (bindings r t) with
      | some e => rfl
      | none =>
          cases isAccepted r t <;> rfl

/-- An element that is accepted into some dynamic record is accepted into any with more
marks. -/
theorem fst_accept_markOptional {filters : Filter.Registry} {r : Pattern.Rule}
    (h : FiltersResolve filters [r]) (marked : List Nat → Bool) {t : ElementTree} {sink : Sink}
    {state : sink.State .dynamic} (haccept : (accept filters .dynamic sink r t state).1 = .ok true)
    (state' : sink.State .dynamic) :
    (accept filters .dynamic sink (r.markOptional marked) t state').1 = .ok true := by
  rw [fst_accept] at haccept
  obtain ⟨-, -, haccepted⟩ := map_eq_ok_iff.1 haccept
  have hfirst : firstFault? filters .dynamic (bindings (r.markOptional marked) t) = none := by
    refine firstFault?_dynamic_eq_none fun b hb => h b.1 ?_
    rw [← Pattern.Rule.targetsOfList_markOptional marked r]
    exact target_mem_of_mem_bindings (r.markOptional marked) hb
  rw [fst_accept, hfirst, isAccepted_markOptional marked r t haccepted]
  rfl

/-- The records of rules are no fewer with more marks. -/
theorem length_flatMap_recordsOf_le (filters : Filter.Registry) (τ : RecordType)
    (marked : Nat → List Nat → Bool) (rs : List Pattern.Rule) (ts : List ElementTree) :
    (rs.flatMap fun r => recordsOf filters τ r ts).length ≤
      ((markOptionalList marked rs).flatMap fun r => recordsOf filters τ r ts).length := by
  induction rs generalizing marked with
  | nil => exact Nat.le_refl _
  | cons r rs ih =>
      have hfirst : (recordsOf filters τ r ts).length ≤
          (recordsOf filters τ (r.markOptional (marked 0)) ts).length := by
        rw [recordsOf, recordsOf, List.length_map, List.length_map, candidates_markOptional,
          ← List.countP_eq_length_filter, ← List.countP_eq_length_filter]
        exact List.countP_mono_left fun t _ => isAccepted_markOptional (marked 0) r t
      have hrest := ih fun i => marked (i + 1)
      rw [markOptionalList, List.flatMap_cons, List.flatMap_cons, List.length_append,
        List.length_append]
      exact Nat.add_le_add hfirst hrest

end Harvest.Extraction

namespace Harvest.Pattern

open Extraction Html Record

/-- **More marks lose nothing.** Let all filters that a pattern calls be there, and let any of
its rules be marked as optional besides those that are. Then every element that a rule at the
top accepts, it accepts with the marks, whichever sink the values go to and whatever the sink
holds. If an extraction into a list of dynamic records succeeds, it succeeds with the marks, and
gives as many records or more. If one into a dynamic record succeeds, so does it with the
marks. -/
theorem markOptional_monotone (p : Pattern) (marked : List Nat → Bool)
    (h : ∀ t ∈ p.targets, ∀ name ∈ t.filters, p.filters.resolve? name ≠ none)
    (document : Document) :
    (∀ (i : Nat) (r : Rule), p.rules[i]? = some r →
      ∃ r', (p.markOptional marked).rules[i]? = some r' ∧
        ∀ t ∈ document.root.postorder, r.heading.selector.matches t.place = true →
          r'.heading.selector.matches t.place = true ∧
          ∀ (sink : Sink) (state state' : sink.State .dynamic),
            (accept p.filters .dynamic sink r t state).1 = .ok true →
            (accept p.filters .dynamic sink r' t state').1 = .ok true) ∧
    (∀ records, (p.findAll document .dynamic records).1 = .ok () →
      ((p.markOptional marked).findAll document .dynamic records).1 = .ok () ∧
        (p.findAll document .dynamic records).2.length ≤
          ((p.markOptional marked).findAll document .dynamic records).2.length) ∧
    ∀ record, (p.find document .dynamic record).1 = .ok () →
      ((p.markOptional marked).find document .dynamic record).1 = .ok () := by
  have hresolve : FiltersResolve p.filters p.rules := h
  have hfault : p.fault? document .dynamic = none →
      (p.markOptional marked).fault? document .dynamic = none := by
    intro hnone
    have hmatched := (rulesFault?_dynamic_eq_none_iff hresolve document).1 hnone
    exact (rulesFault?_dynamic_eq_none_iff (hresolve.markOptionalList _) document).2
      (allMatched_markOptionalList _ p.rules [document.root] hmatched)
  refine ⟨fun i r hr => ?_, fun records hok => ?_, fun record hok => ?_⟩
  · refine ⟨r.markOptional fun address => marked (i :: address), ?_, fun t _ hmatch =>
      ⟨?_, fun sink state state' haccept => ?_⟩⟩
    · exact (Rule.getElem?_markOptionalList _ p.rules i).trans (by rw [hr]; rfl)
    · obtain ⟨heading, children⟩ := r
      exact hmatch
    · exact fst_accept_markOptional (hresolve.of_mem (List.mem_of_getElem? hr)) _ haccept state'
  · rw [fst_findAll, outcome_eq_ok_iff] at hok
    rw [findAll_eq, findAll_eq, hok, hfault hok]
    refine ⟨rfl, ?_⟩
    rw [List.length_append, List.length_append]
    exact Nat.add_le_add_left
      (length_flatMap_recordsOf_le p.filters .dynamic _ p.rules [document.root]) _
  · rw [fst_find, outcome_eq_ok_iff] at hok ⊢
    exact hfault hok

/-- The theorem at a list of two items of which one has no child that the rule below asks for.
With that rule marked, both items are accepted. -/
theorem markOptional_monotone_list_items :
    ∃ q, compile "ul\nli (text A.strip)\n\tb (text B.lower)" = .ok q ∧
      (∀ t ∈ q.targets, ∀ name ∈ t.filters, q.filters.resolve? name ≠ none) ∧
      (q.findAll (Document.parse "<ul><li>x<li><b>Y</b></ul>") .dynamic []).1 = .ok () ∧
      (q.findAll (Document.parse "<ul><li>x<li><b>Y</b></ul>") .dynamic []).2.length = 2 ∧
      ((q.markOptional (· == [1, 0])).findAll
        (Document.parse "<ul><li>x<li><b>Y</b></ul>") .dynamic []).1 = .ok () ∧
      2 ≤ ((q.markOptional (· == [1, 0])).findAll
        (Document.parse "<ul><li>x<li><b>Y</b></ul>") .dynamic []).2.length := by
  have heval : (compile "ul\nli (text A.strip)\n\tb (text B.lower)").map (fun q =>
      (q.targets.all fun t => t.filters.all fun name => (q.filters.resolve? name).isSome,
        (q.findAll (Document.parse "<ul><li>x<li><b>Y</b></ul>") .dynamic []).1,
        (q.findAll (Document.parse "<ul><li>x<li><b>Y</b></ul>") .dynamic []).2.length)) =
      .ok (true, .ok (), 2) := by decide +kernel
  obtain ⟨q, hq, heq⟩ := map_eq_ok_iff.1 heval
  obtain ⟨hall, heq⟩ := Prod.mk.inj heq
  obtain ⟨hok, hlength⟩ := Prod.mk.inj heq
  have hresolve : ∀ t ∈ q.targets, ∀ name ∈ t.filters, q.filters.resolve? name ≠ none := by
    intro t ht name hname
    exact Option.isSome_iff_ne_none.1 (List.all_eq_true.1 (List.all_eq_true.1 hall t ht) name hname)
  have hmarked := (markOptional_monotone q (· == [1, 0]) hresolve
    (Document.parse "<ul><li>x<li><b>Y</b></ul>")).2.1 [] hok
  exact ⟨q, hq, hresolve, hok, hlength, hmarked.1, hlength ▸ hmarked.2⟩

end Harvest.Pattern
