import Mathlib.Data.List.Basic
import Harvest.Proofs.Extraction.Gate

/-!
# The Order in which Fields Are Checked

The check of the fields stops at the first target that names no field, so it matters in which
order it goes. Rules are taken from a stack, and the last of several siblings lies on top: a rule
comes before the rules below it, but of two siblings the later one comes first, with everything
below it. This is the order of the source for the *mirrored* rules, where the siblings of every
level are turned around.

A pattern and its mirror image have the same targets. In which order two of them come is
different only if they stand in or below two different siblings; so the target that is reported
is the first one of the source whenever all the others that name no field stand in the same rule
or below it.

## Main results

* `Rule.targetsOfList_mirrorAll`: the order of the check is the order of the mirrored source.
* `Rule.Stands.find?_checkedTargetsOfList`: a rule that holds all the targets without a field
  decides which one is reported.
* `reported_field`: which field is reported, and when it is the first one in the source.
-/

namespace Harvest.Pattern

open Extraction Html Record

namespace Rule

/-! ### Mirror images -/

mutual

/-- A rule with the siblings of all levels below it turned around. -/
def mirror : Rule → Rule
  | .mk heading children => .mk heading (mirrorAll children)

/-- Rules with the siblings of all levels turned around. -/
def mirrorAll : List Rule → List Rule
  | [] => []
  | r :: rs => mirrorAll rs ++ [mirror r]

end

mutual

theorem targetsOfList_mirror : ∀ r : Rule, targetsOfList [mirror r] = checkedTargets r
  | .mk heading children => by
      rw [mirror, targetsOfList_cons, checkedTargets, ← targetsOfList_mirrorAll children]
      exact congrArg _ (List.append_nil _)

/-- **The order of the check** is the order of the source for the mirrored rules. -/
theorem targetsOfList_mirrorAll :
    ∀ rs : List Rule, targetsOfList (mirrorAll rs) = checkedTargetsOfList rs
  | [] => rfl
  | r :: rs => by
      rw [mirrorAll, targetsOfList_append, targetsOfList_mirrorAll rs, targetsOfList_mirror r,
        checkedTargetsOfList]

end

/-! ### Rules among rules -/

/-- A rule stands among rules, at whatever depth, after some targets and before others. The
targets of the rule itself and of the rules below it are between them. -/
inductive Stands (r : Rule) : List Rule → List Target → List Target → Prop
  /-- It is one of the rules. -/
  | among (front back : List Rule) :
      Stands r (front ++ r :: back) (targetsOfList front) (targetsOfList back)
  /-- It stands below one of the rules. -/
  | under (front back : List Rule) {q : Rule} {before after : List Target}
      (h : Stands r q.children before after) :
      Stands r (front ++ q :: back) (targetsOfList front ++ (q.ownTargets ++ before))
        (after ++ targetsOfList back)

theorem targetsOfList_singleton (r : Rule) :
    targetsOfList [r] = r.ownTargets ++ targetsOfList r.children := by
  rw [targetsOfList_cons]
  exact congrArg _ (List.append_nil _)

/-- The targets among which a rule stands, in the order of the source. -/
theorem Stands.targetsOfList_eq {r : Rule} {rs : List Rule} {before after : List Target}
    (h : r.Stands rs before after) :
    targetsOfList rs = before ++ (targetsOfList [r] ++ after) := by
  induction h with
  | among front back =>
      rw [targetsOfList_append, ← targetsOfList_append [r] back, List.singleton_append]
  | under front back _ ih =>
      rw [targetsOfList_append, targetsOfList_cons, ih]
      simp only [List.append_assoc]

/-- The targets of rules are checked after those of the siblings behind them. -/
theorem checkedTargetsOfList_append_cons (front back : List Rule) (r : Rule) :
    checkedTargetsOfList (front ++ r :: back) =
      checkedTargetsOfList back ++ (checkedTargets r ++ checkedTargetsOfList front) := by
  simp only [checkedTargetsOfList_eq_flatMap, List.reverse_append, List.reverse_cons,
    List.flatMap_append, List.flatMap_singleton, List.append_assoc]

/-- Rules whose targets all name a field do not stop the check. -/
theorem find?_checkedTargetsOfList_eq_none {names : List String} {rs : List Rule}
    (h : ∀ t ∈ targetsOfList rs, t.field ∈ names) :
    (checkedTargetsOfList rs).find? (undeclared names) = none := by
  rw [checkedTargetsOfList_eq_flatMap, ← firstUndeclared?_eq_find?, firstUndeclared?_eq_none_iff]
  exact fun t ht => h t (mem_targetsOfList_reverse.1 ht)

/-- No target is found among those that name a field. -/
theorem find?_undeclared_eq_none {names : List String} {ts : List Target}
    (h : ∀ t ∈ ts, t.field ∈ names) : ts.find? (undeclared names) = none := by
  refine List.find?_eq_none.2 fun t ht => ?_
  rw [undeclared_eq_true_iff, Decidable.not_not]
  exact h t ht

/-- **A rule decides** which target is reported if no target before or after it does without a
field. -/
theorem Stands.find?_checkedTargetsOfList {names : List String} {r : Rule} {rs : List Rule}
    {before after : List Target} (h : r.Stands rs before after)
    (hbefore : ∀ t ∈ before, t.field ∈ names) (hafter : ∀ t ∈ after, t.field ∈ names) :
    (checkedTargetsOfList rs).find? (undeclared names) =
      (checkedTargets r).find? (undeclared names) := by
  induction h with
  | among front back =>
      rw [checkedTargetsOfList_append_cons, List.find?_append, List.find?_append,
        find?_checkedTargetsOfList_eq_none hbefore, find?_checkedTargetsOfList_eq_none hafter,
        Option.none_or, Option.or_none]
  | @under front back q before after _ ih =>
      obtain ⟨hfront, hbefore⟩ := List.forall_mem_append.1 hbefore
      obtain ⟨hown, hbefore⟩ := List.forall_mem_append.1 hbefore
      obtain ⟨hafter, hback⟩ := List.forall_mem_append.1 hafter
      rw [checkedTargetsOfList_append_cons, List.find?_append, List.find?_append,
        find?_checkedTargetsOfList_eq_none hfront, find?_checkedTargetsOfList_eq_none hback,
        Option.none_or, Option.or_none, checkedTargets_eq, ← checkedTargetsOfList_eq_flatMap,
        List.find?_append, find?_undeclared_eq_none hown, Option.none_or, ih hbefore hafter]

/-- The first target without a field is the same in the source and for the check if all such
targets stand in a rule that has one of its own, or below it. -/
theorem Stands.find?_targetsOfList {names : List String} {r : Rule} {rs : List Rule}
    {before after : List Target} (h : r.Stands rs before after)
    (hbefore : ∀ t ∈ before, t.field ∈ names) (hafter : ∀ t ∈ after, t.field ∈ names)
    (hown : ∃ t ∈ r.ownTargets, t.field ∉ names) :
    (targetsOfList rs).find? (undeclared names) =
      (checkedTargetsOfList rs).find? (undeclared names) := by
  obtain ⟨t, ht, hnot⟩ := hown
  obtain ⟨found, hfound⟩ : ∃ found, r.ownTargets.find? (undeclared names) = some found :=
    Option.isSome_iff_exists.1
      (List.find?_isSome.2 ⟨t, ht, undeclared_eq_true_iff.2 hnot⟩)
  rw [h.find?_checkedTargetsOfList hbefore hafter, h.targetsOfList_eq, targetsOfList_singleton,
    checkedTargets_eq, List.find?_append, List.find?_append, List.find?_append,
    find?_undeclared_eq_none hbefore, List.find?_append, hfound]
  rfl

end Rule

/-! ### The report -/

/-- The field that the check of a pattern reports is that of the first target without a field in
the mirrored source. -/
theorem checkFields_eq_error_of_find? {τ : RecordType} {rules : List Rule} {t : Target}
    (hnamed : τ.fieldNames.isEmpty = false)
    (h : (Rule.targetsOfList (Rule.mirrorAll rules)).find? (undeclared τ.fieldNames) = some t) :
    checkFields τ rules = .error (.assign t.field (.unknownField t.field)) := by
  rw [Rule.targetsOfList_mirrorAll, checkedTargetsOfList_eq_flatMap,
    ← firstUndeclared?_eq_find?] at h
  rw [checkFields_eq_firstUndeclared?, hnamed, if_neg Bool.false_ne_true, h]

/-- **The field that is reported.** Let a record type have declared fields of which some target of
a pattern names none. Every extraction then reports the field of the same target: among those
that name no field, it is the first one in the source of the mirrored pattern. It is the first one
in the source of the pattern itself as well if the rule in which that one stands has all the
others in it or below it. -/
theorem reported_field (p : Pattern) {first : Field} {rest : List Field}
    (h : ∃ t ∈ p.targets, t.field ∉ (first :: rest).map Field.target) :
    ∃ t, (Rule.targetsOfList (Rule.mirrorAll p.rules)).find?
          (undeclared ((first :: rest).map Field.target)) = some t ∧
      (∀ (document : Document) (record : (RecordType.declared first rest).Value)
        (records : List (RecordType.declared first rest).Value),
        p.find document (.declared first rest) record =
          (.error (.assign t.field (.unknownField t.field)), record) ∧
        p.findAll document (.declared first rest) records =
          (.error (.assign t.field (.unknownField t.field)), records)) ∧
      ∀ (r : Rule) (before after : List Target), r.Stands p.rules before after →
        (∀ t' ∈ before, t'.field ∈ (first :: rest).map Field.target) →
        (∀ t' ∈ after, t'.field ∈ (first :: rest).map Field.target) →
        (∃ t' ∈ r.ownTargets, t'.field ∉ (first :: rest).map Field.target) →
        p.targets.find? (undeclared ((first :: rest).map Field.target)) = some t := by
  obtain ⟨t, ht⟩ : ∃ t, (Rule.targetsOfList (Rule.mirrorAll p.rules)).find?
      (undeclared ((first :: rest).map Field.target)) = some t := by
    obtain ⟨t, ht, hnot⟩ := h
    refine Option.ne_none_iff_exists'.1 fun hnone => ?_
    rw [Rule.targetsOfList_mirrorAll, checkedTargetsOfList_eq_flatMap,
      ← firstUndeclared?_eq_find?, firstUndeclared?_eq_none_iff] at hnone
    exact hnot (hnone t (Rule.mem_targetsOfList_reverse.2 ht))
  refine ⟨t, ht, eq_of_checkFields_error (checkFields_eq_error_of_find? rfl ht),
    fun r before after hstands hbefore hafter hown => ?_⟩
  rw [Rule.targetsOfList_mirrorAll] at ht
  exact (hstands.find?_targetsOfList hbefore hafter hown).trans ht

/-- The theorem at a rule with a target without a field and two rules below it with one each: the
rule itself has the first one, and it is reported. -/
theorem reported_field_of_parent :
    ∃ p, compile "ul (text A)\n\tli (text B)\n\tb (text C)" = .ok p ∧
      p.targets = [⟨"A", []⟩, ⟨"B", []⟩, ⟨"C", []⟩] ∧
      ∀ document record records,
        p.find document (.declared ⟨"id", .text, "ID"⟩ []) record =
          (.error (.assign "A" (.unknownField "A")), record) ∧
        p.findAll document (.declared ⟨"id", .text, "ID"⟩ []) records =
          (.error (.assign "A" (.unknownField "A")), records) := by
  have hcompile : (compile "ul (text A)\n\tli (text B)\n\tb (text C)").map
      (fun p => (p.targets, p.rules.map Rule.ownTargets)) =
      .ok ([⟨"A", []⟩, ⟨"B", []⟩, ⟨"C", []⟩], [[⟨"A", []⟩]]) := by decide +kernel
  obtain ⟨p, hp, heq⟩ := map_eq_ok_iff.1 hcompile
  obtain ⟨htargets, hrules⟩ := Prod.mk.inj heq
  obtain ⟨r, _, hr, hown, htail⟩ := List.map_eq_cons_iff.1 hrules
  obtain rfl := List.map_eq_nil_iff.1 htail
  have hundeclared : ∃ t ∈ p.targets, t.field ∉ [⟨"id", .text, "ID"⟩].map Field.target :=
    ⟨⟨"A", []⟩, by rw [htargets]; exact List.mem_cons_self, by decide⟩
  obtain ⟨t, -, hreport, hfirst⟩ := reported_field p hundeclared
  have hstands : r.Stands p.rules [] [] := by
    rw [hr]
    exact .among [] []
  have ht : p.targets.find? (undeclared ["ID"]) = some t :=
    hfirst r [] [] hstands (List.forall_mem_nil _) (List.forall_mem_nil _)
      ⟨⟨"A", []⟩, by rw [hown]; exact List.mem_cons_self, by decide⟩
  rw [htargets] at ht
  obtain rfl := Option.some.inj ht
  exact ⟨p, hp, htargets, hreport⟩

/-- Of two rules with a target without a field each, it is not the first target in the source
that is reported. -/
theorem reported_field_of_later_rule :
    ∃ p, compile "h1 (text A)\np (text B)" = .ok p ∧
      p.targets.find? (undeclared ["ID"]) = some ⟨"A", []⟩ ∧
      ∀ document record records,
        p.find document (.declared ⟨"id", .text, "ID"⟩ []) record =
          (.error (.assign "B" (.unknownField "B")), record) ∧
        p.findAll document (.declared ⟨"id", .text, "ID"⟩ []) records =
          (.error (.assign "B" (.unknownField "B")), records) := by
  have hcompile : (compile "h1 (text A)\np (text B)").map
      (fun p => (p.targets, checkFields (.declared ⟨"id", .text, "ID"⟩ []) p.rules)) =
      .ok ([⟨"A", []⟩, ⟨"B", []⟩], .error (.assign "B" (.unknownField "B"))) := by decide +kernel
  obtain ⟨p, hp, heq⟩ := map_eq_ok_iff.1 hcompile
  obtain ⟨htargets, hcheck⟩ := Prod.mk.inj heq
  exact ⟨p, hp, by rw [htargets]; rfl, eq_of_checkFields_error hcheck⟩

end Harvest.Pattern
