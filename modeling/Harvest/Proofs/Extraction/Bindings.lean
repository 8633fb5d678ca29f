import Harvest.Proofs.Extraction.Search

/-!
# What a Rule Binds

Which elements a rule accepts, and which values it offers to which targets on the way, is
settled by the rule and the tree alone. No filter and no record has a say in it, except that
a failure ends everything. This module gives both as plain recursions, `isAccepted` and
`bindings`, and brings every computation of an extraction into one form: store the bindings
one after the other, then answer.

The bindings of an element include those of elements below it that are rejected in the end,
and those of a rejected element are the ones made before it was rejected.

## Main results

* `populate_eq`: to take a rule on an element is to store its bindings and to answer
  whether the element is accepted.
* `runRules_record_eq`: to run rules into a record is to store their bindings and to report
  the first rule that is required and has accepted nothing.
-/

namespace Harvest.Extraction

open Html Record

/-- A value on its way to a target. -/
abbrev Binding := Pattern.Target × String

/-! ### Acceptance and bindings -/

/-- Whether a capture resolves on an element. -/
def resolves (p : Place) (c : Pattern.Capture) : Bool :=
  (captured? p c).isSome

/-- The bindings of captures, up to the first one that does not resolve. -/
def captureBindings (p : Place) : List Pattern.Capture → List Binding
  | [] => []
  | c :: cs =>
      match captured? p c with
      | none => []
      | some values => values ++ captureBindings p cs

mutual

/-- Whether a rule accepts a candidate: all captures resolve, and every child rule matches
below the element. -/
def isAccepted : Pattern.Rule → ElementTree → Bool
  | .mk heading children, t =>
      heading.captures.all (resolves t.place) && allMatched children t.children

/-- Whether all rules of a list match in some trees. -/
def allMatched : List Pattern.Rule → List ElementTree → Bool
  | [], _ => true
  | r :: rs, ts =>
      (r.heading.optional || (candidates r.heading ts).any (isAccepted r)) && allMatched rs ts

end

/-- Whether a rule matches in some trees: it is optional, or it accepts a candidate. -/
def isMatched (r : Pattern.Rule) (ts : List ElementTree) : Bool :=
  r.heading.optional || (candidates r.heading ts).any (isAccepted r)

mutual

/-- The bindings of a rule on a candidate: those of its captures, and if all of them
resolve, those of its child rules below the element. -/
def bindings : Pattern.Rule → ElementTree → List Binding
  | .mk heading children, t =>
      captureBindings t.place heading.captures ++
        if heading.captures.all (resolves t.place) then bindingsOfAll children t.children
        else []

/-- The bindings of a list of rules on all candidates in some trees, up to the first rule
that does not match. -/
def bindingsOfAll : List Pattern.Rule → List ElementTree → List Binding
  | [], _ => []
  | r :: rs, ts =>
      (candidates r.heading ts).flatMap (bindings r) ++
        if isMatched r ts then bindingsOfAll rs ts else []

end

theorem allMatched_cons (r : Pattern.Rule) (rs : List Pattern.Rule)
    (ts : List ElementTree) : allMatched (r :: rs) ts = (isMatched r ts && allMatched rs ts) := by
  rw [allMatched, isMatched]

/-- If all rules match, their bindings are those of all candidates. -/
theorem bindingsOfAll_of_isMatched {rs : List Pattern.Rule} {ts : List ElementTree}
    (h : ∀ r ∈ rs, isMatched r ts = true) :
    bindingsOfAll rs ts =
      rs.flatMap fun r => (candidates r.heading ts).flatMap (bindings r) := by
  induction rs with
  | nil => rw [bindingsOfAll, List.flatMap_nil]
  | cons r rs ih =>
      obtain ⟨hr, hrs⟩ := List.forall_mem_cons.1 h
      rw [bindingsOfAll, List.flatMap_cons, if_pos hr, ih hrs]

/-! ### Storing bindings -/

variable (filters : Filter.Registry) (τ : RecordType)

/-- Two lists of bindings are carried out one after the other. -/
theorem bindAll_append (xs ys : List Binding) :
    bindAll filters τ (xs ++ ys) = (do bindAll filters τ xs; bindAll filters τ ys) := by
  induction xs with
  | nil => rw [List.nil_append, bindAll, pure_bind]
  | cons x xs ih => rw [List.cons_append, bindAll, bindAll, ih, bind_assoc]

/-- Answering for elements one after the other, with bindings stored on the way, is storing
all the bindings first. -/
theorem mapM_bindAll (binds : ElementTree → List Binding) (answer : ElementTree → Bool)
    (es : List ElementTree) :
    (es.mapM fun t => (do bindAll filters τ (binds t); pure (answer t))) =
      (do bindAll filters τ (es.flatMap binds); pure (es.map answer)) := by
  induction es with
  | nil => rw [List.mapM_nil, List.flatMap_nil, List.map_nil, bindAll, pure_bind]
  | cons t ts ih =>
      simp only [List.mapM_cons, List.flatMap_cons, List.map_cons, bindAll_append, ih,
        bind_assoc, pure_bind]

/-- Taking captures is storing their bindings. -/
theorem takeCaptures_eq (p : Place) (cs : List Pattern.Capture) :
    takeCaptures filters τ p cs =
      (do bindAll filters τ (captureBindings p cs); pure (cs.all (resolves p))) := by
  induction cs with
  | nil => rw [takeCaptures, captureBindings, List.all_nil, bindAll, pure_bind]
  | cons c cs ih =>
      rw [takeCaptures, captureBindings, List.all_cons, resolves]
      cases captured? p c with
      | none => exact (pure_bind _ _).symm
      | some values =>
          simp only [Option.isSome_some, Bool.true_and, ih, bindAll_append, bind_assoc]

/-- Taking one capture that resolves is storing its values. -/
theorem takeCaptures_singleton {p : Place} {c : Pattern.Capture} {values : List Binding}
    (h : captured? p c = some values) :
    takeCaptures filters τ p [c] = (do bindAll filters τ values; pure true) := by
  rw [takeCaptures, h]
  rfl

/-- A search whose accepting function stores bindings and answers does nothing else. -/
theorem search_eq_bindAll {heading : Pattern.Heading}
    {accept : ElementTree → Writing τ.Value Bool} {binds : ElementTree → List Binding}
    {answer : ElementTree → Bool}
    (h : ∀ t, accept t = (do bindAll filters τ (binds t); pure (answer t)))
    (ts : List ElementTree) :
    search heading accept ts = (do
      bindAll filters τ ((candidates heading ts).flatMap binds)
      pure (if heading.optional || (candidates heading ts).any answer then .matched
        else .noMatch)) := by
  rw [search_eq_mapM_candidates, funext h, mapM_bindAll, bind_assoc]
  simp only [pure_bind, verdictOf, List.any_map, Function.id_comp]

/-! ### Rules -/

mutual

/-- **Taking a rule on an element** is storing its bindings. -/
theorem populate_eq : ∀ (r : Pattern.Rule) (t : ElementTree),
    populate filters τ r t =
      (do bindAll filters τ (bindings r t); pure (isAccepted r t))
  | .mk heading children, t => by
      rw [populate, takeCaptures_eq, bindings, isAccepted, bind_assoc, bindAll_append]
      cases heading.captures.all (resolves t.place) with
      | false => simp [bindAll]
      | true => simp [populateAll_eq children t]

/-- Searching for rules below an element is storing their bindings. -/
theorem populateAll_eq : ∀ (rs : List Pattern.Rule) (t : ElementTree),
    populateAll filters τ rs t =
      (do bindAll filters τ (bindingsOfAll rs t.children); pure (allMatched rs t.children))
  | [], t => by rw [populateAll, bindingsOfAll, allMatched, bindAll, pure_bind]
  | r :: rs, t => by
      rw [populateAll, search_eq_bindAll filters τ (populate_eq r), bindingsOfAll,
        allMatched_cons, ← isMatched, bind_assoc, bindAll_append]
      cases isMatched r t.children with
      | false => simp [bindAll]
      | true => simp [populateAll_eq rs t]

end

/-- The fault of a run of rules in which no binding fails: the first rule that is required
and accepts nothing. -/
def unmatched? (rules : List Pattern.Rule) (ts : List ElementTree) : Option FindError :=
  (rules.find? fun r => !isMatched r ts).map fun r => .noMatch r.heading.selectorText

theorem unmatched?_cons (r : Pattern.Rule) (rs : List Pattern.Rule)
    (ts : List ElementTree) :
    unmatched? (r :: rs) ts =
      if isMatched r ts then unmatched? rs ts else some (.noMatch r.heading.selectorText) := by
  rw [unmatched?, List.find?_cons]
  cases isMatched r ts <;> rfl

/-- No rule is reported if and only if all are matched. -/
theorem unmatched?_eq_none_iff {rules : List Pattern.Rule} {ts : List ElementTree} :
    unmatched? rules ts = none ↔ ∀ r ∈ rules, isMatched r ts = true := by
  rw [unmatched?, Option.map_eq_none_iff, List.find?_eq_none]
  simp

/-- **Running rules into a record** is storing their bindings. -/
theorem runRules_record_eq (document : Document) (rules : List Pattern.Rule) :
    runRules filters τ document .record rules = (do
      bindAll filters τ (bindingsOfAll rules [document.root])
      match unmatched? rules [document.root] with
      | none => pure ()
      | some e => throw e) := by
  induction rules with
  | nil => rw [runRules, bindingsOfAll, bindAll, pure_bind]; rfl
  | cons r rs ih =>
      rw [runRules, show accept filters τ .record r = populate filters τ r from rfl,
        search_eq_bindAll filters τ (populate_eq filters τ r), bindingsOfAll,
        unmatched?_cons, ← isMatched, bind_assoc, bindAll_append]
      cases isMatched r [document.root] with
      | false => simp [bindAll]
      | true => simp [ih]

end Harvest.Extraction
