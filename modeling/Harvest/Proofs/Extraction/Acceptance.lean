import Mathlib.Data.List.Basic
import Harvest.Proofs.Extraction.Collection
import Harvest.Proofs.Pattern.Captures

/-!
# Acceptance, Declaratively

What it means for a rule to accept an element can be said without a search, by recursion
over the rule: the selector matches, all captures resolve, and every child rule is optional
or accepts some element below. For compiled patterns this is what an extraction computes.

A capture with a regular expression resolves only if the expression has exactly as many
groups as the capture has targets. Compiling refuses fewer groups and matching refuses more,
so this is where `Capture.WellFormed` is needed.

## Main results

* `accepted_iff`: acceptance by the computation agrees with acceptance by the definition.
* `extraction_succeeds_iff`: an extraction in which no binding fails succeeds if and only if
  every rule at the top is satisfied, and else reports the first one that is not.
-/

namespace Harvest.Extraction

open Html Record

/-- Whether a capture resolves on an element: its attribute is present, and a regular
expression has as many groups as there are targets and matches the value. -/
def Resolves (p : Place) (c : Pattern.Capture) : Prop :=
  ∃ raw, attributeValue? p c.source = some raw ∧
    ∀ e, c.expression = some e →
      e.regex.groups = c.targets.length ∧ (e.regex.captures? raw).isSome

mutual

/-- Whether a rule accepts an element: its selector matches, its captures resolve, and its
child rules are satisfied below the element. -/
def Accepted : Pattern.Rule → ElementTree → Prop
  | .mk heading children, t =>
      heading.selector.matches t.place = true ∧
      (∀ c ∈ heading.captures, Resolves t.place c) ∧
      SatisfiedBelow children t

/-- Whether every rule of a list is optional or accepts an element below. -/
def SatisfiedBelow : List Pattern.Rule → ElementTree → Prop
  | [], _ => True
  | r :: rs, t =>
      (r.heading.optional = true ∨ ∃ d, d.IsBelow t ∧ Accepted r d) ∧ SatisfiedBelow rs t

end

/-- Whether a document satisfies a rule: the rule is optional, or it accepts an element of
the document, be it the root or one below. -/
def Satisfies (document : Document) (r : Pattern.Rule) : Prop :=
  r.heading.optional = true ∨
    ∃ e, (e = document.root ∨ e.IsBelow document.root) ∧ Accepted r e

/-! ### The computation and the definition -/

/-- A well-formed capture resolves by computation if and only if it does by definition. -/
theorem resolves_eq_true_iff {p : Place} {c : Pattern.Capture} (hc : c.WellFormed) :
    resolves p c = true ↔ Resolves p c := by
  rw [resolves, captured?, Resolves]
  cases attributeValue? p c.source with
  | none => simp
  | some raw =>
      cases hexpr : c.expression with
      | none => simp
      | some e =>
          have hgroups := hc.hasGroups e hexpr
          by_cases hmore : c.targets.length < e.regex.groups
          · have hne : e.regex.groups ≠ c.targets.length := by omega
            simp [hmore, hne]
          · have heq : e.regex.groups = c.targets.length := by omega
            simp [heq]

/-- The search of a rule is successful if it accepts an element at or below the tops of the
trees. -/
theorem isMatched_iff {r : Pattern.Rule} {ts : List ElementTree}
    (h : ∀ t, Accepted r t ↔
      r.heading.selector.matches t.place = true ∧ isAccepted r t = true) :
    isMatched r ts = true ↔
      r.heading.optional = true ∨
        ∃ d, (∃ t ∈ ts, d = t ∨ d.IsBelow t) ∧ Accepted r d := by
  rw [isMatched, Bool.or_eq_true, List.any_eq_true]
  refine or_congr_right (exists_congr fun d => ?_)
  rw [candidates, List.mem_filter, ElementTree.mem_postorderOfList, h d, and_assoc]

mutual

/-- **Acceptance.** An element that matches the selector is accepted by the computation if
and only if it is by the definition. -/
theorem accepted_iff : ∀ (r : Pattern.Rule) (t : ElementTree),
    Pattern.AllCapturesWellFormed r.headings →
    (Accepted r t ↔ r.heading.selector.matches t.place = true ∧ isAccepted r t = true)
  | .mk heading children, t, h => by
      rw [Pattern.Rule.headings] at h
      obtain ⟨hself, hchildren⟩ := List.forall_mem_cons.1 h
      have hcaptures : (∀ c ∈ heading.captures, Resolves t.place c) ↔
          heading.captures.all (resolves t.place) = true := by
        rw [List.all_eq_true]
        exact forall₂_congr fun c hc => (resolves_eq_true_iff (hself c hc)).symm
      rw [Accepted, isAccepted, Bool.and_eq_true, hcaptures,
        satisfiedBelow_iff_allMatched children t hchildren]
      rfl

/-- Child rules are satisfied below an element if and only if the searches for them
succeed. -/
theorem satisfiedBelow_iff_allMatched : ∀ (rs : List Pattern.Rule) (t : ElementTree),
    Pattern.AllCapturesWellFormed (Pattern.Rule.headingsOfList rs) →
    (SatisfiedBelow rs t ↔ allMatched rs t.children = true)
  | [], t, _ => by simp [SatisfiedBelow, allMatched]
  | r :: rs, t, h => by
      rw [Pattern.Rule.headingsOfList] at h
      obtain ⟨hr, hrs⟩ := List.forall_mem_append.1 h
      rw [SatisfiedBelow, allMatched_cons, Bool.and_eq_true,
        isMatched_iff fun t => accepted_iff r t hr,
        satisfiedBelow_iff_allMatched rs t hrs]
      simp only [← ElementTree.isBelow_iff]

end

/-- A rule matches in a document if and only if the document satisfies it. -/
theorem isMatched_root_iff {document : Document} {r : Pattern.Rule}
    (h : Pattern.AllCapturesWellFormed r.headings) :
    isMatched r [document.root] = true ↔ Satisfies document r := by
  rw [isMatched_iff fun t => accepted_iff r t h, Satisfies]
  simp only [List.mem_singleton, exists_eq_left]

end Harvest.Extraction

namespace Harvest.Pattern

open Extraction Html Record

/-- Without a fault among fields and bindings, the fault of an extraction is the first rule
that does not match. -/
theorem fault?_eq_unmatched? {p : Pattern} {document : Document} {τ : RecordType}
    (hfields : checkFields τ p.rules = .ok ())
    (hbinds : ∀ b ∈ bindingsOfAll p.rules [document.root],
      bindingFault? p.filters τ b = none) :
    p.fault? document τ = unmatched? p.rules [document.root] := by
  rw [fault?, hfields]
  dsimp only
  rw [rulesFault?, (firstFault?_eq_none_iff p.filters τ).2 hbinds, Option.none_or]

/-- The fault of unmatched rules is about the first of them. -/
theorem exists_of_unmatched?_eq_some {rules : List Rule} {ts : List ElementTree}
    {e : FindError} (h : unmatched? rules ts = some e) :
    ∃ before r after, rules = before ++ r :: after ∧
      (∀ r' ∈ before, isMatched r' ts = true) ∧ ¬ isMatched r ts = true ∧
      e = .noMatch r.heading.selectorText := by
  obtain ⟨r, hfind, rfl⟩ := Option.map_eq_some_iff.1 h
  obtain ⟨hr, before, after, hrules, hbefore⟩ := List.find?_eq_some_iff_append.1 hfind
  exact ⟨before, r, after, hrules, fun r' hr' => by simpa using hbefore r' hr',
    by simpa using hr, rfl⟩

/-- **When an extraction succeeds.** Let a pattern be compiled and given any filters, let
its fields pass the check, and let no binding of the run fail, that is, let every filter
that is looked up be there and every field take its value. Then extracting into a record and
extracting into a list both succeed if and only if the document satisfies every rule at the
top. Otherwise both report the selector of the first rule that is required and accepts
nothing. -/
theorem extraction_succeeds_iff [Diagnostics] {source : String} {q : Pattern}
    (hq : compile source = .ok q) (filters : Filter.Registry) (document : Document)
    (τ : RecordType) (hfields : checkFields τ q.rules = .ok ())
    (hbinds : ∀ b ∈ bindingsOfAll q.rules [document.root], bindingFault? filters τ b = none)
    (record : τ.Value) (records : List τ.Value) :
    ((find { q with filters } document τ record).1 = .ok () ↔
      ∀ r ∈ q.rules, Satisfies document r) ∧
    ((findAll { q with filters } document τ records).1 = .ok () ↔
      ∀ r ∈ q.rules, Satisfies document r) ∧
    (¬ (∀ r ∈ q.rules, Satisfies document r) →
      ∃ before r after, q.rules = before ++ r :: after ∧
        (∀ r' ∈ before, Satisfies document r') ∧ ¬ Satisfies document r ∧
        (find { q with filters } document τ record).1 =
          .error (.noMatch r.heading.selectorText) ∧
        (findAll { q with filters } document τ records).1 =
          .error (.noMatch r.heading.selectorText)) := by
  have hmatched : ∀ r ∈ q.rules,
      (isMatched r [document.root] = true ↔ Satisfies document r) := fun r hr =>
    isMatched_root_iff fun h hh => wellFormed_of_compile hq h (Rule.mem_headingsOfList hr hh)
  have hall : unmatched? q.rules [document.root] = none ↔
      ∀ r ∈ q.rules, Satisfies document r := by
    rw [unmatched?_eq_none_iff]
    exact forall₂_congr hmatched
  have hok : outcome (unmatched? q.rules [document.root]) = .ok () ↔
      ∀ r ∈ q.rules, Satisfies document r := by
    rw [← hall]
    cases unmatched? q.rules [document.root] <;> simp [outcome]
  rw [fst_find, fst_findAll, fault?_eq_unmatched? (p := { q with filters }) hfields hbinds]
  refine ⟨hok, hok, fun hnot => ?_⟩
  obtain ⟨e, he⟩ := Option.ne_none_iff_exists'.1 fun hnone => hnot (hall.1 hnone)
  obtain ⟨before, r, after, hrules, hbefore, hr, rfl⟩ := exists_of_unmatched?_eq_some he
  have hmem : r ∈ q.rules := by rw [hrules]; simp
  refine ⟨before, r, after, hrules, fun r' hr' => ?_, fun h => hr ((hmatched r hmem).2 h), ?_⟩
  · exact (hmatched r' (by rw [hrules]; simp [hr'])).1 (hbefore r' hr')
  · rw [he]
    exact ⟨rfl, rfl⟩

/-- The theorem at an item of a list with two groups and an optional child that is not
there. -/
theorem satisfies_of_list_item :
    ∃ q, compile "ul\n\tli (class=/(.)-(.)/ A B)\n\t\t?i (text T)" = .ok q ∧
      checkFields .dynamic q.rules = .ok () ∧
      (∀ b ∈ bindingsOfAll q.rules [(Document.parse "<ul><li class=x-y>a</ul>").root],
        bindingFault? .empty .dynamic b = none) ∧
      q.rules.length = 1 ∧
      ∀ r ∈ q.rules, Satisfies (Document.parse "<ul><li class=x-y>a</ul>") r := by
  have heval : (compile "ul\n\tli (class=/(.)-(.)/ A B)\n\t\t?i (text T)").map (fun q =>
      (q.rules.length,
        bindingsOfAll q.rules [(Document.parse "<ul><li class=x-y>a</ul>").root],
        (find { q with filters := .empty } (Document.parse "<ul><li class=x-y>a</ul>")
          .dynamic .empty).1)) =
      .ok (1, [(⟨"A", []⟩, "x"), (⟨"B", []⟩, "y")], .ok ()) := by decide +kernel
  obtain ⟨q, hq, heq⟩ := map_eq_ok_iff.1 heval
  obtain ⟨hlength, heq⟩ := Prod.mk.inj heq
  obtain ⟨hbindings, hfind⟩ := Prod.mk.inj heq
  have hbinds : ∀ b ∈ bindingsOfAll q.rules
      [(Document.parse "<ul><li class=x-y>a</ul>").root],
      bindingFault? .empty .dynamic b = none := by
    rw [hbindings]
    simp [bindingFault?, applyFilters, RecordType.assign]
  exact ⟨q, hq, rfl, hbinds, hlength,
    (extraction_succeeds_iff hq .empty _ .dynamic rfl hbinds .empty []).1.1 hfind⟩

end Harvest.Pattern
