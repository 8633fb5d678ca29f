import Mathlib.Data.List.Forall2
import Harvest.Proofs.Extraction.Writes
import Harvest.Proofs.Pattern.Captures

/-!
# Groups and Targets

A capture with a regular expression gives each of its targets the text of one group. How many
groups there are is compared with the number of targets twice: a closing bracket refuses fewer
groups, and an element is refused if there are more. Neither of the two comparisons is about
both directions, and only where both have been passed do the groups and the targets stand side
by side, the first group with the first target and so on to the last of both. Then no target is
left without a group, and no group without a target.

A group that took no part in a match still has its place. Its target gets the empty text, so
that the targets after it are not moved.

## Main results

* `eq_zip_of_captured?`: the values of a capture are its targets beside the texts of the groups.
* `takeCaptures_of_extra_groups`: a capture with more groups than targets takes nothing.
* `groups_match_targets`: what a capture of a compiled pattern does with its groups.
-/

namespace Harvest.Regex

/-- The text of a group in a match, `none` if the group took no part in it. -/
def groupText? (text : String) (slots : Slots) (group : Nat) : Option String :=
  (slots.span? group).map fun span => String.ofList (slice text.toList span)

/-- The texts of all groups in a match, from the first group to the last. A group that took no
part in it has the empty text. -/
def groupTexts (r : Regex) (text : String) (slots : Slots) : List String :=
  (List.range r.groups).map fun i => (groupText? text slots (i + 1)).getD ""

theorem length_groupTexts (r : Regex) (text : String) (slots : Slots) :
    (r.groupTexts text slots).length = r.groups := by
  rw [groupTexts, List.length_map, List.length_range]

/-- The groups of the first match are captured. -/
theorem captures?_eq_some_iff {r : Regex} {text : String} {groups : List (Option String)} :
    r.captures? text = some groups ↔
      ∃ slots, r.program.search none 0 text.toList = some slots ∧
        (List.range r.groups).map (fun i => groupText? text slots (i + 1)) = groups :=
  Option.map_eq_some_iff

end Harvest.Regex

namespace Harvest.Extraction

open Html Record

/-! ### Values of a capture -/

/-- If there are groups for all targets, each target stands beside the text of its group. -/
theorem pairGroups_eq_zip {targets : List Pattern.Target} {groups : List (Option String)}
    (h : targets.length ≤ groups.length) :
    pairGroups targets groups = targets.zip (groups.map fun text => text.getD "") := by
  induction targets generalizing groups with
  | nil => rfl
  | cons t ts ih =>
      cases groups with
      | nil => exact absurd h (Nat.not_succ_le_zero _)
      | cons text groups =>
          rw [pairGroups, List.map_cons, List.zip_cons_cons, List.tail_cons,
            ih (Nat.le_of_succ_le_succ h)]
          rfl

/-- A capture with more groups than targets resolves nowhere. -/
theorem captured?_of_extra_groups {c : Pattern.Capture} {e : Pattern.Expression}
    (he : c.expression = some e) (hmore : c.targets.length < e.regex.groups) (place : Place) :
    captured? place c = none := by
  rw [captured?]
  cases attributeValue? place c.source with
  | none => rfl
  | some raw =>
      dsimp only
      rw [he]
      exact if_pos hmore

/-- **The values of a capture** that resolves are its targets, each beside the text of its own
group in the first match of the value it reads, with as many groups as targets. -/
theorem eq_zip_of_captured? {c : Pattern.Capture} (hc : c.WellFormed) {e : Pattern.Expression}
    (he : c.expression = some e) {place : Place} {values : List Binding}
    (h : captured? place c = some values) :
    e.regex.groups = c.targets.length ∧
      ∃ raw slots, attributeValue? place c.source = some raw ∧
        e.regex.program.search none 0 raw.toList = some slots ∧
        values = c.targets.zip (e.regex.groupTexts raw slots) := by
  have hgroups : e.regex.groups = c.targets.length := by
    refine Nat.le_antisymm (Nat.le_of_not_lt fun hmore => ?_) (hc.hasGroups e he)
    rw [captured?_of_extra_groups he hmore] at h
    cases h
  rw [captured?] at h
  cases hraw : attributeValue? place c.source with
  | none =>
      rw [hraw] at h
      cases h
  | some raw =>
      rw [hraw] at h
      dsimp only at h
      rw [he] at h
      dsimp only at h
      rw [if_neg (by omega)] at h
      obtain ⟨groups, hmatch, rfl⟩ := Option.map_eq_some_iff.1 h
      obtain ⟨slots, hslots, rfl⟩ := Regex.captures?_eq_some_iff.1 hmatch
      refine ⟨hgroups, raw, slots, rfl, hslots, ?_⟩
      rw [pairGroups_eq_zip (by simp [hgroups]), List.map_map]
      rfl

/-! ### Stores -/

section

variable (filters : Filter.Registry) (τ : RecordType)

/-- A binding without a fault stores the text that its filters make of its value. -/
theorem exists_text_of_bindingFault?_eq_none {b : Binding}
    (h : bindingFault? filters τ b = none) (bs : List Binding) :
    ∃ text, applyFilters filters b.1.filters b.2 = .ok text ∧
      written filters τ (b :: bs) = (b.1.field, text) :: written filters τ bs := by
  obtain ⟨target, raw⟩ := b
  rw [bindingFault?] at h
  rw [written]
  cases hfilters : applyFilters filters target.filters raw with
  | error e =>
      rw [hfilters] at h
      cases h
  | ok text =>
      rw [hfilters] at h
      dsimp only at h ⊢
      cases hassign : τ.assign τ.default target.field text with
      | error cause =>
          rw [hassign] at h
          cases h
      | ok record => exact ⟨text, rfl, rfl⟩

/-- **Values that are stored** without a failure are stored under the fields of their targets,
each after the filters of its own target. -/
theorem exists_texts_of_bindAll {bs : List Binding} {record : τ.Value}
    (h : (bindAll filters τ bs record).1 = .ok ()) :
    ∃ texts,
      List.Forall₂ (fun b text => applyFilters filters b.1.filters b.2 = .ok text) bs texts ∧
        (bindAll filters τ bs record).2 =
          τ.storeAll ((bs.map fun b => b.1.field).zip texts) record := by
  have hfault : firstFault? filters τ bs = none := by
    rw [fst_bindAll] at h
    cases hfault : firstFault? filters τ bs with
    | none => rfl
    | some e =>
        rw [hfault] at h
        cases h
  rw [firstFault?_eq_none_iff] at hfault
  have hwritten : ∃ texts,
      List.Forall₂ (fun b text => applyFilters filters b.1.filters b.2 = .ok text) bs texts ∧
        written filters τ bs = (bs.map fun b => b.1.field).zip texts := by
    clear h
    induction bs with
    | nil => exact ⟨[], .nil, rfl⟩
    | cons b bs ih =>
        obtain ⟨hb, hbs⟩ := List.forall_mem_cons.1 hfault
        obtain ⟨text, htext, hfirst⟩ := exists_text_of_bindingFault?_eq_none filters τ hb bs
        obtain ⟨texts, htexts, hrest⟩ := ih hbs
        refine ⟨text :: texts, .cons htext htexts, ?_⟩
        rw [hfirst, hrest, List.map_cons, List.zip_cons_cons]
  obtain ⟨texts, htexts, heq⟩ := hwritten
  refine ⟨texts, htexts, ?_⟩
  rw [snd_bindAll, heq]

/-- A capture that resolves stores its values, unless something fails. -/
theorem stored_of_takeCaptures {place : Place} {c : Pattern.Capture} {values : List Binding}
    (hvalues : captured? place c = some values) {record : τ.Value} {resolved : Bool}
    (h : (takeCaptures filters τ place [c] record).1 = .ok resolved) :
    resolved = true ∧
      ∃ texts,
        List.Forall₂ (fun b text => applyFilters filters b.1.filters b.2 = .ok text)
          values texts ∧
        (takeCaptures filters τ place [c] record).2 =
          τ.storeAll ((values.map fun b => b.1.field).zip texts) record := by
  rw [takeCaptures_singleton filters τ hvalues] at h ⊢
  cases hbind : (bindAll filters τ values record).1 with
  | error cause =>
      rw [fst_bind_of_error hbind] at h
      cases h
  | ok _ =>
      rw [bind_apply_of_ok hbind] at h ⊢
      exact ⟨(Except.ok.inj h).symm, exists_texts_of_bindAll filters τ hbind⟩

/-- Captures are taken one after the other, as long as they resolve. -/
theorem takeCaptures_append (place : Place) (cs cs' : List Pattern.Capture) :
    takeCaptures filters τ place (cs ++ cs') = (do
      if ← takeCaptures filters τ place cs then takeCaptures filters τ place cs'
      else pure false) := by
  induction cs with
  | nil =>
      rw [List.nil_append, takeCaptures, pure_bind]
      rfl
  | cons c cs ih =>
      rw [List.cons_append, takeCaptures, takeCaptures]
      cases captured? place c with
      | none => exact (pure_bind _ _).symm
      | some values => simp only [ih, bind_assoc]

/-- A capture with more groups than targets takes nothing, nor do the captures after it. -/
theorem takeCaptures_of_extra_groups {c : Pattern.Capture} {e : Pattern.Expression}
    (he : c.expression = some e) (hmore : c.targets.length < e.regex.groups) (place : Place)
    (before after : List Pattern.Capture) :
    takeCaptures filters τ place (before ++ c :: after) =
      (do let _ ← takeCaptures filters τ place before; pure false) := by
  have hnone : takeCaptures filters τ place (c :: after) = pure false := by
    rw [takeCaptures, captured?_of_extra_groups he hmore]
  rw [takeCaptures_append, hnone]
  simp only [ite_self]

end

end Harvest.Extraction

namespace Harvest.Pattern

open Extraction Html Record

/-- **Groups and targets.** A capture with a regular expression in a compiled pattern, in a rule
at any depth, has a target and at least as many groups as targets. Where it resolves, there are
as many groups as targets: each target is given the text of its own group in the first match of
the value that is read, from the first to the last, and the empty text only for a group that took
no part in the match. If nothing fails, all of these texts are stored under the fields of their
targets, each after the filters of its own target. A capture with more groups than targets
resolves on no element, the rules of its heading accept none, and neither the capture nor those
after it store anything. -/
theorem groups_match_targets [Diagnostics] {source : String} {p : Pattern}
    (h : compile source = .ok p) {heading : Heading}
    (hheading : heading ∈ Rule.headingsOfList p.rules) {c : Capture}
    (hc : c ∈ heading.captures) {e : Expression} (he : c.expression = some e) :
    (c.targets ≠ [] ∧ c.targets.length ≤ e.regex.groups) ∧
    (∀ place values, captured? place c = some values →
      e.regex.groups = c.targets.length ∧
      ∃ raw slots, attributeValue? place c.source = some raw ∧
        e.regex.program.search none 0 raw.toList = some slots ∧
        values = c.targets.zip (e.regex.groupTexts raw slots) ∧
        ∀ filters τ record resolved,
          (takeCaptures filters τ place [c] record).1 = .ok resolved →
          resolved = true ∧
          ∃ texts,
            List.Forall₂ (fun b text => applyFilters filters b.1.filters b.2 = .ok text)
              values texts ∧
            (takeCaptures filters τ place [c] record).2 =
              τ.storeAll ((c.targets.map Target.field).zip texts) record) ∧
    (c.targets.length < e.regex.groups →
      (∀ place, captured? place c = none) ∧
      (∀ children t, isAccepted (.mk heading children) t = false) ∧
      ∀ filters τ place before after,
        takeCaptures filters τ place (before ++ c :: after) =
          (do let _ ← takeCaptures filters τ place before; pure false)) := by
  have hwf : c.WellFormed := wellFormed_of_compile h heading hheading c hc
  refine ⟨⟨hwf.hasTarget, hwf.hasGroups e he⟩, fun place values hvalues => ?_, fun hmore => ?_⟩
  · obtain ⟨hgroups, raw, slots, hraw, hslots, heq⟩ := eq_zip_of_captured? hwf he hvalues
    have hfields : (values.map fun b => b.1.field) = c.targets.map Target.field := by
      have hlength : c.targets.length ≤ (e.regex.groupTexts raw slots).length :=
        Nat.le_of_eq ((Regex.length_groupTexts e.regex raw slots).trans hgroups).symm
      calc (values.map fun b => b.1.field)
          = (values.map Prod.fst).map Target.field := by rw [List.map_map]; rfl
        _ = c.targets.map Target.field := by rw [heq, List.map_fst_zip hlength]
    refine ⟨hgroups, raw, slots, hraw, hslots, heq, fun filters τ record resolved hresolved => ?_⟩
    rw [← hfields]
    exact stored_of_takeCaptures filters τ hvalues hresolved
  · have hnone := captured?_of_extra_groups he hmore
    refine ⟨hnone, fun children t => ?_, fun filters τ place before after =>
      takeCaptures_of_extra_groups filters τ he hmore place before after⟩
    have hnot : ¬ heading.captures.all (resolves t.place) = true := by
      intro hall
      have hresolves := List.all_eq_true.1 hall c hc
      rw [resolves, hnone] at hresolves
      cases hresolves
    rw [isAccepted, Bool.eq_false_iff.2 hnot, Bool.false_and]

/-- A link outside of a document. -/
def linkTo (address : String) : Place :=
  ⟨.html "a", [⟨⟨.none, "href"⟩, address⟩], [], [], [], none, false⟩

/-- The theorem at an expression with two alternatives of which the second one matches: the target
of the first group gets the empty text, and the target of the second one its text. -/
theorem groups_match_targets_alternatives :
    ∃ p heading c e, compile "a (href=/id=([0-9]+)|name=([a-z]+)/ ID Name)" = .ok p ∧
      heading ∈ Rule.headingsOfList p.rules ∧ c ∈ heading.captures ∧ c.expression = some e ∧
      captured? (linkTo "?name=only") c = some [(⟨"ID", []⟩, ""), (⟨"Name", []⟩, "only")] ∧
      e.regex.groups = c.targets.length ∧
      ∃ raw slots, attributeValue? (linkTo "?name=only") c.source = some raw ∧
        e.regex.program.search none 0 raw.toList = some slots ∧
        e.regex.groupTexts raw slots = ["", "only"] := by
  have hcompile : (compile "a (href=/id=([0-9]+)|name=([a-z]+)/ ID Name)").map (fun p =>
      (Rule.headingsOfList p.rules).flatMap fun heading => heading.captures.map fun c =>
        (c.expression.isSome, captured? (linkTo "?name=only") c)) =
      .ok [(true, some [(⟨"ID", []⟩, ""), (⟨"Name", []⟩, "only")])] := by decide +kernel
  obtain ⟨p, hp, hcaptures⟩ := map_eq_ok_iff.1 hcompile
  obtain ⟨heading, hmem, hcapture⟩ :=
    List.mem_flatMap.1 (hcaptures ▸ List.mem_singleton_self _ : _ ∈ _)
  obtain ⟨c, hcmem, hcapture⟩ := List.mem_map.1 hcapture
  obtain ⟨hexpression, hvalues⟩ := Prod.mk.inj hcapture
  obtain ⟨e, he⟩ := Option.isSome_iff_exists.1 hexpression
  obtain ⟨hgroups, raw, slots, hraw, hslots, hzip, -⟩ :=
    (groups_match_targets hp hmem hcmem he).2.1 (linkTo "?name=only") _ hvalues
  refine ⟨p, heading, c, e, hp, hmem, hcmem, he, hvalues, hgroups, raw, slots, hraw, hslots, ?_⟩
  have hlength : (e.regex.groupTexts raw slots).length ≤ c.targets.length :=
    Nat.le_of_eq ((Regex.length_groupTexts e.regex raw slots).trans hgroups)
  calc e.regex.groupTexts raw slots
      = (c.targets.zip (e.regex.groupTexts raw slots)).map Prod.snd :=
        (List.map_snd_zip hlength).symm
    _ = ["", "only"] := by rw [← hzip]; rfl

end Harvest.Pattern
