import Harvest.Proofs.Extraction.Targets

/-!
# The Gate of an Extraction

Before anything is searched for, the fields of all targets of a pattern are looked up among the
names of the record type. The check can be seen as a loop with a stack of rules: the rule on top
is taken off, its own targets are checked, and its child rules are put on the stack. Whatever
the shape of the rules, every rule comes to the top once, so that an extraction goes on only if
every target has a field; and then no value is ever stored under a name that is unknown.

## Main results

* `checkFields_eq_firstUndeclared?`: the check is the loop.
* `firstUndeclared?_eq_none_iff`, `firstUndeclared?_eq_some`: what the loop finds.
* `reason_of_fault?`: the four reasons why an extraction fails.
* `field_gate`: when an extraction stops at an unknown field, and what it leaves behind.
-/

namespace Harvest.Extraction

open Html Record
open Pattern.Rule (targetsOfList headingsOfList)

/-! ### A loop with a stack -/

/-- Whether a target names a field that is none of the given ones. -/
def undeclared (names : List String) (t : Pattern.Target) : Bool :=
  !names.contains t.field

theorem undeclared_eq_true_iff {names : List String} {t : Pattern.Target} :
    undeclared names t = true ↔ t.field ∉ names := by
  rw [undeclared, Bool.not_eq_true', List.contains_eq_mem, decide_eq_false_iff_not]

/-- Takes rules off a stack, the first one first, and puts their child rules on it, the last one
on top, up to a target that names no field. -/
def firstUndeclared? (names : List String) : (stack : List Pattern.Rule) →
    Option Pattern.Target
  | [] => none
  | r :: stack =>
      match r.ownTargets.find? (undeclared names) with
      | some t => some t
      | none => firstUndeclared? names (r.children.reverse ++ stack)
termination_by stack => (headingsOfList stack).length
decreasing_by
  obtain ⟨heading, children⟩ := r
  rw [Pattern.Rule.headingsOfList_append, List.length_append,
    Pattern.Rule.length_headingsOfList_reverse, headingsOfList, Pattern.Rule.headings,
    List.length_append, List.length_cons, Pattern.Rule.children]
  omega

/-- The targets of a list of rules are checked from the last rule to the first. -/
theorem checkedTargetsOfList_eq_flatMap (rs : List Pattern.Rule) :
    checkedTargetsOfList rs = rs.reverse.flatMap checkedTargets := by
  induction rs with
  | nil => rfl
  | cons r rs ih =>
      rw [checkedTargetsOfList, ih, List.reverse_cons, List.flatMap_append,
        List.flatMap_singleton]

theorem checkedTargets_eq (r : Pattern.Rule) :
    checkedTargets r = r.ownTargets ++ r.children.reverse.flatMap checkedTargets := by
  obtain ⟨heading, children⟩ := r
  rw [checkedTargets, checkedTargetsOfList_eq_flatMap]
  rfl

/-- The loop goes through the targets of the rules on the stack, one rule after the other. -/
theorem firstUndeclared?_eq_find? (names : List String) (stack : List Pattern.Rule) :
    firstUndeclared? names stack =
      (stack.flatMap checkedTargets).find? (undeclared names) := by
  fun_induction firstUndeclared? names stack with
  | case1 => rfl
  | case2 r stack t hfound =>
      rw [List.flatMap_cons, checkedTargets_eq, List.append_assoc, List.find?_append, hfound]
      rfl
  | case3 r stack hnone ih =>
      rw [List.flatMap_cons, checkedTargets_eq, List.append_assoc, List.find?_append, hnone, ih,
        List.flatMap_append]
      rfl

/-- **The check of the fields** is the loop, with the rules of the pattern on the stack. -/
theorem checkFields_eq_firstUndeclared? (τ : RecordType) (rules : List Pattern.Rule) :
    checkFields τ rules =
      if τ.fieldNames.isEmpty then .ok ()
      else
        match firstUndeclared? τ.fieldNames rules.reverse with
        | some t => .error (.assign t.field (.unknownField t.field))
        | none => .ok () := by
  rw [firstUndeclared?_eq_find?, ← checkedTargetsOfList_eq_flatMap]
  rfl

/-- **The loop finds nothing** if and only if every target of the rules names a field. -/
theorem firstUndeclared?_eq_none_iff {names : List String} {stack : List Pattern.Rule} :
    firstUndeclared? names stack = none ↔ ∀ t ∈ targetsOfList stack, t.field ∈ names := by
  fun_induction firstUndeclared? names stack with
  | case1 => exact ⟨fun _ _ ht => absurd ht List.not_mem_nil, fun _ => rfl⟩
  | case2 r stack t hfound =>
      refine ⟨nofun, fun hall => ?_⟩
      have hmem : t ∈ targetsOfList (r :: stack) := by
        rw [Pattern.Rule.targetsOfList_cons]
        exact List.mem_append_left _ (List.mem_of_find?_eq_some hfound)
      exact absurd (hall t hmem) (undeclared_eq_true_iff.1 (List.find?_some hfound))
  | case3 r stack hnone ih =>
      have hown : ∀ t ∈ r.ownTargets, t.field ∈ names := by
        intro t ht
        have hnot := List.find?_eq_none.1 hnone t ht
        rwa [undeclared_eq_true_iff, Decidable.not_not] at hnot
      have hchildren : (∀ t ∈ targetsOfList r.children.reverse, t.field ∈ names) ↔
          ∀ t ∈ targetsOfList r.children, t.field ∈ names :=
        forall_congr' fun t => imp_congr_left Pattern.Rule.mem_targetsOfList_reverse
      rw [ih, Pattern.Rule.targetsOfList_cons, Pattern.Rule.targetsOfList_append,
        List.forall_mem_append, List.forall_mem_append, List.forall_mem_append, hchildren]
      exact (and_iff_right hown).symm

/-- **What the loop finds** is a target of the rules that names no field. -/
theorem firstUndeclared?_eq_some {names : List String} {stack : List Pattern.Rule}
    {t : Pattern.Target} (h : firstUndeclared? names stack = some t) :
    t ∈ targetsOfList stack ∧ t.field ∉ names := by
  fun_induction firstUndeclared? names stack with
  | case1 => cases h
  | case2 r stack t' hfound =>
      obtain rfl := Option.some.inj h
      refine ⟨?_, undeclared_eq_true_iff.1 (List.find?_some hfound)⟩
      rw [Pattern.Rule.targetsOfList_cons]
      exact List.mem_append_left _ (List.mem_of_find?_eq_some hfound)
  | case3 r stack hnone ih =>
      obtain ⟨hmem, hnot⟩ := ih h
      refine ⟨?_, hnot⟩
      rw [Pattern.Rule.targetsOfList_append, List.mem_append,
        Pattern.Rule.mem_targetsOfList_reverse] at hmem
      rw [Pattern.Rule.targetsOfList_cons]
      exact List.mem_append_right _ (List.mem_append.2 hmem)

/-! ### The check -/

/-- Fields pass the check if and only if the records take every name or every target names one
of their fields. -/
theorem checkFields_eq_ok_iff {τ : RecordType} {rules : List Pattern.Rule} :
    checkFields τ rules = .ok () ↔
      τ.fieldNames = [] ∨ ∀ t ∈ targetsOfList rules, t.field ∈ τ.fieldNames := by
  have hreverse : (∀ t ∈ targetsOfList rules.reverse, t.field ∈ τ.fieldNames) ↔
      ∀ t ∈ targetsOfList rules, t.field ∈ τ.fieldNames :=
    forall_congr' fun t => imp_congr_left Pattern.Rule.mem_targetsOfList_reverse
  rw [checkFields_eq_firstUndeclared?]
  by_cases hempty : τ.fieldNames = []
  · simp [hempty]
  · rw [if_neg (by simpa using hempty), or_iff_right hempty, ← hreverse,
      ← firstUndeclared?_eq_none_iff]
    cases firstUndeclared? τ.fieldNames rules.reverse <;> simp

/-- What the check of the fields reports is the field of a target, which the records do not
have. -/
theorem exists_of_checkFields_error {τ : RecordType} {rules : List Pattern.Rule} {e : FindError}
    (h : checkFields τ rules = .error e) :
    τ.fieldNames ≠ [] ∧ ∃ t ∈ targetsOfList rules, t.field ∉ τ.fieldNames ∧
      e = .assign t.field (.unknownField t.field) := by
  rw [checkFields_eq_firstUndeclared?] at h
  split at h
  · cases h
  · rename_i hnamed
    refine ⟨fun hempty => hnamed (by rw [hempty]; rfl), ?_⟩
    split at h
    · rename_i t hfound
      obtain ⟨hmem, hnot⟩ := firstUndeclared?_eq_some hfound
      exact ⟨t, Pattern.Rule.mem_targetsOfList_reverse.1 hmem, hnot, (Except.error.inj h).symm⟩
    · cases h

end Harvest.Extraction

namespace Harvest.Pattern

open Extraction Html Record

/-- An extraction that the check stops leaves record and list as they were. -/
theorem eq_of_checkFields_error {p : Pattern} {τ : RecordType} {e : FindError}
    (h : checkFields τ p.rules = .error e) (document : Document) (record : τ.Value)
    (records : List τ.Value) :
    p.find document τ record = (.error e, record) ∧
      p.findAll document τ records = (.error e, records) := by
  rw [find, findAll, h]
  exact ⟨rfl, rfl⟩

/-- Why an extraction fails with an error. -/
inductive Reason (p : Pattern) (document : Document) (τ : RecordType) : FindError → Prop where
  /-- A target names a field that the records do not have. -/
  | undeclared {t : Target} (mem : t ∈ p.targets) (named : τ.fieldNames ≠ [])
      (notMem : t.field ∉ τ.fieldNames) :
      Reason p document τ (.assign t.field (.unknownField t.field))
  /-- A filter of a target is not there. -/
  | unknownFilter {t : Target} {name : String} (mem : t ∈ p.targets)
      (name_mem : name ∈ t.filters) (unresolved : p.filters.resolve? name = none) :
      Reason p document τ (.unknownFilter name)
  /-- The records do not take what the filters of a target make of a value that was captured
  for it. -/
  | refused {t : Target} {raw value : String} {cause : FieldError} (mem : t ∈ p.targets)
      (bound : (t, raw) ∈ bindingsOfAll p.rules [document.root])
      (filtered : applyFilters p.filters t.filters raw = .ok value)
      (refused : τ.assign τ.default t.field value = .error cause) :
      Reason p document τ (.assign t.field cause)
  /-- A rule at the top matches nothing. -/
  | noMatch {r : Rule} (mem : r ∈ p.rules) :
      Reason p document τ (.noMatch r.heading.selectorText)

/-- **The fault of an extraction** has a reason. -/
theorem reason_of_fault? {p : Pattern} {document : Document} {τ : RecordType} {e : FindError}
    (h : p.fault? document τ = some e) : Reason p document τ e := by
  rw [fault?] at h
  cases hcheck : checkFields τ p.rules with
  | error e' =>
      rw [hcheck] at h
      obtain rfl := Option.some.inj h
      obtain ⟨hnamed, t, ht, hnot, rfl⟩ := exists_of_checkFields_error hcheck
      exact .undeclared ht hnamed hnot
  | ok _ =>
      rw [hcheck] at h
      rcases Option.or_eq_some_iff.1 h with hfirst | ⟨-, hunmatched⟩
      · obtain ⟨⟨t, raw⟩, hb, hbinding⟩ := List.exists_of_findSome?_eq_some hfirst
        have ht : t ∈ p.targets := target_mem_of_mem_bindingsOfAll p.rules hb
        rcases bindingFault?_eq_some_iff.1 hbinding with
          hfilters | ⟨value, cause, hvalue, hassign, rfl⟩
        · obtain ⟨name, hname, hnone, rfl⟩ := exists_of_applyFilters_error hfilters
          exact .unknownFilter ht hname hnone
        · exact .refused ht hb hvalue hassign
      · obtain ⟨r, hr, rfl⟩ := exists_mem_of_unmatched? hunmatched
        exact .noMatch hr

/-- After the check, no value is stored under a name that is unknown. -/
theorem fault?_ne_unknownField {p : Pattern} {τ : RecordType}
    (h : checkFields τ p.rules = .ok ()) (document : Document) (field name : String) :
    p.fault? document τ ≠ some (.assign field (.unknownField name)) := by
  intro hfault
  have hnames : ∀ t ∈ p.targets, τ.fieldNames = [] ∨ t.field ∈ τ.fieldNames := fun t ht =>
    (checkFields_eq_ok_iff.1 h).imp_right fun hall => hall t ht
  cases reason_of_fault? hfault with
  | undeclared ht hnamed hnot => exact (hnames _ ht).elim hnamed hnot
  | refused ht hb hvalue hrefused =>
      exact RecordType.assign_ne_unknownField (hnames _ ht) τ.default _ name hrefused

/-- Dynamic records refuse nothing. -/
theorem fault?_dynamic_ne_assign (p : Pattern) (document : Document) (field : String)
    (cause : FieldError) : p.fault? document .dynamic ≠ some (.assign field cause) := by
  intro hfault
  cases reason_of_fault? hfault with
  | undeclared ht hnamed hnot => exact hnamed rfl
  | refused ht hb hvalue hrefused => cases hrefused

/-- An extraction into a record and one into a list both end with an error if and only if it is
the fault of the extraction. -/
theorem fst_eq_error_iff (p : Pattern) (document : Document) (τ : RecordType) (e : FindError)
    (record : τ.Value) (records : List τ.Value) :
    ((p.find document τ record).1 = .error e ↔ p.fault? document τ = some e) ∧
      ((p.findAll document τ records).1 = .error e ↔ p.fault? document τ = some e) := by
  rw [fst_find, fst_findAll]
  cases p.fault? document τ <;> simp [outcome]

/-- No extraction reports a filter that is there. -/
theorem fst_ne_unknownFilter {p : Pattern} {name : String}
    (h : p.filters.resolve? name ≠ none) (document : Document) (τ : RecordType)
    (record : τ.Value) (records : List τ.Value) :
    (p.find document τ record).1 ≠ .error (.unknownFilter name) ∧
      (p.findAll document τ records).1 ≠ .error (.unknownFilter name) := by
  have hfault : p.fault? document τ ≠ some (.unknownFilter name) := by
    intro hfault
    cases reason_of_fault? hfault with
    | unknownFilter ht hname hnone => exact h hnone
  have hiff := p.fst_eq_error_iff document τ (.unknownFilter name) record records
  exact ⟨fun hfind => hfault (hiff.1.1 hfind), fun hfind => hfault (hiff.2.1 hfind)⟩

/-- **The gate.** Let a record type have declared fields. If some target of a pattern, at
whatever depth, names none of them, then every extraction fails with such a target's field as
an unknown one, and leaves the record or the list as it was, whatever the document. If all
targets name declared fields, no extraction reports an unknown field. Extractions into dynamic
records report no refusal at all. -/
theorem field_gate (p : Pattern) :
    (∀ (first : Field) (rest : List Field),
      ((∃ t ∈ p.targets, t.field ∉ (first :: rest).map Field.target) →
        ∃ t ∈ p.targets, t.field ∉ (first :: rest).map Field.target ∧
          ∀ (document : Document) (record : (RecordType.declared first rest).Value)
            (records : List (RecordType.declared first rest).Value),
            p.find document (.declared first rest) record =
              (.error (.assign t.field (.unknownField t.field)), record) ∧
            p.findAll document (.declared first rest) records =
              (.error (.assign t.field (.unknownField t.field)), records)) ∧
      ((∀ t ∈ p.targets, t.field ∈ (first :: rest).map Field.target) →
        ∀ (document : Document) (record : (RecordType.declared first rest).Value)
          (records : List (RecordType.declared first rest).Value) (field name : String),
          (p.find document (.declared first rest) record).1 ≠
            .error (.assign field (.unknownField name)) ∧
          (p.findAll document (.declared first rest) records).1 ≠
            .error (.assign field (.unknownField name)))) ∧
    ∀ (document : Document) (record : RecordType.dynamic.Value)
      (records : List RecordType.dynamic.Value) (field : String) (cause : FieldError),
      (p.find document .dynamic record).1 ≠ .error (.assign field cause) ∧
      (p.findAll document .dynamic records).1 ≠ .error (.assign field cause) := by
  refine ⟨fun first rest => ⟨?_, fun hall document record records field name => ?_⟩, ?_⟩
  · rintro ⟨t, ht, hnot⟩
    cases hcheck : checkFields (.declared first rest) p.rules with
    | ok _ =>
        rcases checkFields_eq_ok_iff.1 hcheck with hempty | hall
        · cases hempty
        · exact absurd (hall t ht) hnot
    | error e =>
        obtain ⟨-, t', ht', hnot', rfl⟩ := exists_of_checkFields_error hcheck
        exact ⟨t', ht', hnot', eq_of_checkFields_error hcheck⟩
  · have hcheck : checkFields (.declared first rest) p.rules = .ok () :=
      checkFields_eq_ok_iff.2 (.inr hall)
    have hfault := fault?_ne_unknownField hcheck document field name
    have hiff := p.fst_eq_error_iff document (.declared first rest)
      (.assign field (.unknownField name)) record records
    exact ⟨fun h => hfault (hiff.1.1 h), fun h => hfault (hiff.2.1 h)⟩
  · intro document record records field cause
    have hfault := p.fault?_dynamic_ne_assign document field cause
    have hiff := p.fst_eq_error_iff document .dynamic (.assign field cause) record records
    exact ⟨fun h => hfault (hiff.1.1 h), fun h => hfault (hiff.2.1 h)⟩

end Harvest.Pattern
