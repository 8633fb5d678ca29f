import Harvest.Proofs.Extraction.Acceptance
import Harvest.Proofs.Extraction.Marking
import Harvest.Proofs.Pattern.OneLine

/-!
# Attributes by Name

A capture that begins with a word looks for an attribute of that name. The word is lower-cased
before the search, by the rules for all letters, and what is searched are the names that belong
to no vocabulary, which are compared as they are. The names in a document have been made by other
rules: the reader of markup lower-cases ASCII letters and no others, gives some names of vector
graphics their capitals back, and moves some names to a vocabulary.

So the capture finds every attribute that belongs to no vocabulary and whose name is its own
lower-case form, and no attribute else. A name with a capital letter cannot be written, for
whatever is written is lower-cased.

## Main results

* `captured?_of_makes`: a capture of a word and a target looks the word up in lower case.
* `attribute_captured`: attributes whose names are in lower case are captured by their names.
-/

namespace Harvest.Html

/-- A name is not found if no attribute of no vocabulary has it. -/
theorem attribute?_eq_none_iff {attributes : List Attribute} {key : String} :
    attribute? attributes key = none ↔ ∀ a ∈ attributes, a.name ≠ ⟨.none, key⟩ := by
  rw [attribute?, Option.map_eq_none_iff, List.find?_eq_none]
  simp

/-- An element carries an attribute of the given name, in no vocabulary, and of the given value,
and no other attribute of that name. -/
structure Place.Carries (place : Place) (key value : String) : Prop where
  /-- It is one of the attributes. -/
  mem : ⟨⟨.none, key⟩, value⟩ ∈ place.attributes
  /-- It is the only one of that name. -/
  unique : ∀ a ∈ place.attributes, a.name = ⟨.none, key⟩ → a = ⟨⟨.none, key⟩, value⟩

/-- An attribute that an element carries is found by its name. -/
theorem Place.Carries.attribute?_eq {place : Place} {key value : String}
    (h : place.Carries key value) : place.attribute? key = some value := by
  cases hfind : place.attributes.find? fun a => a.name = ⟨.none, key⟩ with
  | none => exact absurd (decide_eq_true rfl) (List.find?_eq_none.1 hfind _ h.mem)
  | some a =>
      have hname : a.name = ⟨.none, key⟩ := by simpa using List.find?_some hfind
      rw [attribute?, Html.attribute?, hfind, h.unique a (List.mem_of_find?_eq_some hfind) hname]
      rfl

/-- The attributes of the elements of a document that a selector matches. -/
def Document.matchedAttributes (document : Document) (selector : Css.Selector) :
    List (List Attribute) :=
  (document.root.postorder.filter fun t => selector.matches t.place).map fun t =>
    t.place.attributes

/-- If these are the attributes of one element, a selector matches one element. -/
theorem Document.attributes_of_matchedAttributes_eq {document : Document} {selector : Css.Selector}
    {attributes : List Attribute} (h : document.matchedAttributes selector = [attributes]) :
    (∃ t ∈ document.root.postorder, selector.matches t.place = true) ∧
      ∀ t ∈ document.root.postorder, selector.matches t.place = true →
        t.place.attributes = attributes := by
  have hmem {t : ElementTree} : t ∈ document.root.postorder.filter (fun t =>
      selector.matches t.place) ↔ t ∈ document.root.postorder ∧ selector.matches t.place = true :=
    List.mem_filter
  rw [matchedAttributes, List.map_eq_singleton_iff] at h
  obtain ⟨t, ht, rfl⟩ := h
  simp only [ht, List.mem_singleton] at hmem
  refine ⟨⟨t, hmem.1 rfl⟩, fun t' ht' hmatch => ?_⟩
  obtain rfl := hmem.2 ⟨ht', hmatch⟩
  rfl

end Harvest.Html

namespace Harvest.Extraction

open Html Record

/-! ### The values of the capture -/

section

variable {k f : String} {t : Pattern.Target}

/-- **A capture of a word and a target** looks the word up in lower case, among the attributes of
no vocabulary. -/
theorem captured?_of_makes (htext : Text.lower k ≠ "text") (hhtml : Text.lower k ≠ "html")
    (ht : Pattern.IsTarget f t) {c : Pattern.Capture}
    (hc : Pattern.Makes [.word k, .word f] c) (place : Place) :
    captured? place c = (place.attribute? (Text.lower k)).map fun value => [(t, value)] := by
  obtain rfl := (Pattern.makes_pair_iff ht).1 hc
  rw [captured?, Pattern.Attribute.ofKey, if_neg htext, if_neg hhtml, attributeValue?]
  cases place.attribute? (Text.lower k) <;> rfl

/-- An attribute in lower case that an element carries is captured from it. -/
theorem captured?_of_carries (hlower : Text.lower k = k) (htext : k ≠ "text") (hhtml : k ≠ "html")
    (ht : Pattern.IsTarget f t) {c : Pattern.Capture}
    (hc : Pattern.Makes [.word k, .word f] c) {place : Place} {value : String}
    (h : place.Carries k value) : captured? place c = some [(t, value)] := by
  rw [captured?_of_makes (by rwa [hlower]) (by rwa [hlower]) ht hc, hlower, h.attribute?_eq]
  rfl

end

/-- A capture of one value for a field without filters stores the value in the field. -/
theorem takeCaptures_of_captured? (filters : Filter.Registry) {τ : RecordType} {place : Place}
    {c : Pattern.Capture} {f value : String} (h : captured? place c = some [(⟨f, []⟩, value)])
    {record record' : τ.Value} (hassign : τ.assign record f value = .ok record') :
    takeCaptures filters τ place [c] record = (.ok true, record') := by
  have hbind : bindValue filters τ ⟨f, []⟩ value record = (.ok (), record') := by
    rw [bindValue, applyFilters]
    dsimp only
    rw [hassign]
  rw [takeCaptures_singleton filters τ h, bindAll, bind_apply, bind_apply, hbind]
  rfl

end Harvest.Extraction

namespace Harvest.Pattern

open Extraction Html Record

/-- An entry of a list is related to one of the other list. -/
theorem exists_mem_of_forall₂ {α β : Type} {R : α → β → Prop} {as : List α} {bs : List β}
    (h : List.Forall₂ R as bs) {a : α} (ha : a ∈ as) : ∃ b ∈ bs, R a b := by
  induction h with
  | nil => cases ha
  | cons hab _ ih =>
      rcases List.mem_cons.1 ha with rfl | ha
      · exact ⟨_, List.mem_cons_self, hab⟩
      · obtain ⟨b, hb, hr⟩ := ih ha
        exact ⟨b, List.mem_cons_of_mem _ hb, hr⟩

/-- The only fault of a pattern whose filters are all there, over dynamic records, is a rule that
matches nothing. -/
theorem fault?_dynamic {p : Pattern} (h : FiltersResolve p.filters p.rules) (document : Document) :
    p.fault? document .dynamic = unmatched? p.rules [document.root] := by
  have hfirst : firstFault? p.filters .dynamic (bindingsOfAll p.rules [document.root]) = none :=
    firstFault?_dynamic_eq_none fun b hb => h b.1 (target_mem_of_mem_bindingsOfAll p.rules hb)
  exact fault?_eq_unmatched? rfl ((firstFault?_eq_none_iff p.filters .dynamic).1 hfirst)

section

variable {s f : String} {selector : Css.Selector} {c : Capture}

/-- A rule with one capture accepts the elements the capture resolves on. -/
theorem isAccepted_capture :
    isAccepted (.mk ⟨s, selector, false, [c]⟩ []) = fun t => resolves t.place c := by
  funext t
  simp [isAccepted, allMatched]

/-- The pattern of the rule fails if the capture resolves on no element that the selector
matches. -/
theorem fault?_capture (htargets : c.targets = [⟨f, []⟩]) (filters : Filter.Registry)
    (document : Document) :
    Pattern.fault? ⟨[.mk ⟨s, selector, false, [c]⟩ []], filters⟩ document .dynamic =
      if (document.root.postorder.filter fun t => selector.matches t.place).any fun t =>
          resolves t.place c
      then none else some (.noMatch s) := by
  rw [fault?_dynamic, unmatched?_cons, isMatched, candidates_singleton, isAccepted_capture]
  · rfl
  · simp [FiltersResolve, Rule.targetsOfList, Rule.headingsOfList, Rule.headings, htargets]

/-- It collects a record of the value that the capture offers on an element that the selector
matches. -/
theorem mem_collected_of_captured? (htargets : c.targets = [⟨f, []⟩]) (filters : Filter.Registry)
    {document : Document} {t : ElementTree} (ht : t ∈ document.root.postorder)
    (hmatch : selector.matches t.place = true) {value : String}
    (hvalue : captured? t.place c = some [(⟨f, []⟩, value)])
    (records : List RecordType.dynamic.Value) :
    ∃ added, Pattern.findAll ⟨[.mk ⟨s, selector, false, [c]⟩ []], filters⟩ document .dynamic
        records = (.ok (), records ++ added) ∧
      Dictionary.insert Dictionary.empty f value ∈ added := by
  have hcandidate : t ∈ document.root.postorder.filter fun t => selector.matches t.place :=
    List.mem_filter.2 ⟨ht, hmatch⟩
  have hresolves : resolves t.place c = true := by rw [resolves, hvalue]; rfl
  refine ⟨Pattern.collected ⟨[.mk ⟨s, selector, false, [c]⟩ []], filters⟩ document .dynamic,
    ?_, ?_⟩
  · rw [findAll_eq, fault?_capture htargets, if_pos (List.any_eq_true.2 ⟨t, hcandidate, hresolves⟩)]
  · rw [collected, List.flatMap_singleton, recordsOf, candidates_singleton, isAccepted_capture]
    refine List.mem_map.2 ⟨t, List.mem_filter.2 ⟨hcandidate, hresolves⟩, ?_⟩
    rw [recordOf, bindings, captureBindings, hvalue, bindingsOfAll, ite_self]
    rfl

/-- It fails, and collects nothing, if the capture resolves on no element that the selector
matches. -/
theorem findAll_of_captured?_eq_none (htargets : c.targets = [⟨f, []⟩])
    (filters : Filter.Registry) {document : Document}
    (hnone : ∀ t ∈ document.root.postorder, selector.matches t.place = true →
      captured? t.place c = none) (records : List RecordType.dynamic.Value) :
    Pattern.findAll ⟨[.mk ⟨s, selector, false, [c]⟩ []], filters⟩ document .dynamic records =
      (.error (.noMatch s), records) := by
  rw [findAll_eq, fault?_capture htargets, if_neg]
  rw [List.any_eq_true]
  rintro ⟨t, hcandidate, hresolves⟩
  obtain ⟨ht, hmatch⟩ := List.mem_filter.1 hcandidate
  rw [resolves, hnone t ht hmatch] at hresolves
  cases hresolves

end

/-- **A word finds no attribute whose name is another one.** The rule of a group of two words
matches nothing if no element that its selector matches carries the first word in lower case as
the name of an attribute of no vocabulary. -/
theorem findAll_attributeRule_eq_noMatch [Diagnostics] {s k f : String} {selector : Css.Selector}
    (hs : IsLexeme .line s.toList (.selector s)) (hread : Css.Selector.read? s = some selector)
    (hk : IsLexeme .capture k.toList (.identifier k)) (htext : Text.lower k ≠ "text")
    (hhtml : Text.lower k ≠ "html") (hf : IsLexeme .capture f.toList (.identifier f))
    (hfield : IsTarget f ⟨f, []⟩) {document : Document}
    (hnone : ∀ t ∈ document.root.postorder, selector.matches t.place = true →
      t.place.attribute? (Text.lower k) = none) :
    ∃ p, compile (attributeRule s k f) = .ok p ∧
      ∀ records, p.findAll document .dynamic records = (.error (.noMatch s), records) := by
  refine ⟨_, compile_attributeRule hs hread hk hf hfield, ?_⟩
  refine findAll_of_captured?_eq_none rfl _ fun t ht hmatch => ?_
  rw [captured?_of_makes htext hhtml hfield ((makes_pair_iff hfield).2 rfl), hnone t ht hmatch]
  rfl

/-- A document with one element that a selector matches, which lacks an attribute. -/
theorem findAll_of_matchedAttributes [Diagnostics] {s k f : String}
    (hs : IsLexeme .line s.toList (.selector s))
    (hk : IsLexeme .capture k.toList (.identifier k)) (htext : Text.lower k ≠ "text")
    (hhtml : Text.lower k ≠ "html") (hf : IsLexeme .capture f.toList (.identifier f))
    (hfield : IsTarget f ⟨f, []⟩) {document : Document} {attributes : List Html.Attribute}
    (hread : (Css.Selector.read? s).map document.matchedAttributes = some [attributes])
    (hnone : ∀ a ∈ attributes, a.name ≠ ⟨.none, Text.lower k⟩) :
    (∃ selector, Css.Selector.read? s = some selector ∧ ∃ t ∈ document.root.postorder,
        selector.matches t.place = true ∧ t.place.attributes = attributes) ∧
      ∃ p, compile (attributeRule s k f) = .ok p ∧
        ∀ records, p.findAll document .dynamic records = (.error (.noMatch s), records) := by
  obtain ⟨selector, hselector, hmatched⟩ := Option.map_eq_some_iff.1 hread
  obtain ⟨⟨t, ht, hmatch⟩, hattributes⟩ := Document.attributes_of_matchedAttributes_eq hmatched
  refine ⟨⟨selector, hselector, t, ht, hmatch, hattributes t ht hmatch⟩, ?_⟩
  refine findAll_attributeRule_eq_noMatch hs hselector hk htext hhtml hf hfield
    fun t ht hmatch => ?_
  rw [Place.attribute?, hattributes t ht hmatch]
  exact attribute?_eq_none_iff.2 hnone

/-- **Attributes in lower case are captured by their names.** Let a word be its own lower-case
form, neither `text` nor `html`, and read as one identifier, and let another one name a field. In
every compiled pattern a rule whose line has the group of both words has a capture that resolves
on every element that carries an attribute of the first word as its name, in no vocabulary; it
offers the value of the attribute to the field, and stores it there if the field takes it. And
behind every selector the group makes such a pattern, whose records have the value in the field
for every element that the selector matches and that carries the attribute. -/
theorem attribute_captured [Diagnostics] {k f : String}
    (hk : IsLexeme .capture k.toList (.identifier k))
    (hlower : Text.lower k = k) (htext : k ≠ "text") (hhtml : k ≠ "html")
    (hf : IsLexeme .capture f.toList (.identifier f)) (hfield : IsTarget f ⟨f, []⟩) :
    (∀ source p lines, compile source = .ok p → HasLines source lines →
      List.Forall₂
        (fun items heading => [.word k, .word f] ∈ Item.groups items →
          ∃ c ∈ heading.captures, ∀ place value, place.Carries k value →
            captured? place c = some [(⟨f, []⟩, value)] ∧
            ∀ (filters : Filter.Registry) (τ : RecordType) (record record' : τ.Value),
              τ.assign record f value = .ok record' →
              takeCaptures filters τ place [c] record = (.ok true, record'))
        (lines.filter hasSelector) (Rule.headingsOfList p.rules)) ∧
    ∀ s selector, IsLexeme .line s.toList (.selector s) → Css.Selector.read? s = some selector →
      HasLines (attributeRule s k f) [[.selector s, .group [.word k, .word f]]] ∧
      ∃ p, compile (attributeRule s k f) = .ok p ∧
        ∀ document : Document, ∀ t ∈ document.root.postorder, selector.matches t.place = true →
          ∀ value, t.place.Carries k value → ∀ records, ∃ added,
            p.findAll document .dynamic records = (.ok (), records ++ added) ∧
            Dictionary.insert Dictionary.empty f value ∈ added := by
  have hcaptured : ∀ {c}, Makes [.word k, .word f] c → ∀ place value, place.Carries k value →
      captured? place c = some [(⟨f, []⟩, value)] := fun hc place value =>
    captured?_of_carries hlower htext hhtml hfield hc
  refine ⟨fun source p lines hp hlines => ?_, fun s selector hs hread => ?_⟩
  · refine (forall₂_of_compile hp hlines).imp fun items heading hmakes hgroup => ?_
    obtain ⟨c, hc, hmakes⟩ := exists_mem_of_forall₂ hmakes.captures hgroup
    exact ⟨c, hc, fun place value hcarries => ⟨hcaptured hmakes place value hcarries,
      fun filters τ record record' => takeCaptures_of_captured? filters
        (hcaptured hmakes place value hcarries)⟩⟩
  · refine ⟨hasLines_attributeRule hs hk hf, _, compile_attributeRule hs hread hk hf hfield,
      fun document t ht hmatch value hcarries records => ?_⟩
    have hmakes := (makes_pair_iff (k := k) hfield).2 rfl
    exact mem_collected_of_captured? rfl _ ht hmatch (hcaptured hmakes _ value hcarries) records

/-- An attribute with a hyphen in its name. -/
theorem attribute_captured_data_price :
    ∃ p, compile "li (data-price Price)" = .ok p ∧
      ∃ added, p.findAll (Document.parse "<li data-price=7 class=x>a") .dynamic [] =
          (.ok (), added) ∧
        Dictionary.insert Dictionary.empty "Price" "7" ∈ added := by
  have hk : IsLexeme .capture "data-price".toList (.identifier "data-price") :=
    isLexeme_identifier (c := 'd') (t := ['a', 't', 'a', '-', 'p', 'r', 'i', 'c', 'e']) rfl
      (by simp) (by simp)
  have hf : IsLexeme .capture "Price".toList (.identifier "Price") :=
    isLexeme_identifier (c := 'P') (t := ['r', 'i', 'c', 'e']) rfl (by simp) (by simp)
  have hs : IsLexeme .line "li".toList (.selector "li") :=
    isLexeme_selector (c := 'l') (t := ['i']) rfl (by simp) (by simp)
  have hlower : Text.lower "data-price" = "data-price" := by decide +kernel
  have hfield : IsTarget "Price" ⟨"Price", []⟩ := parse_eq_ok_iff.1 (by decide +kernel)
  have hread : (Css.Selector.read? "li").map
        (Document.parse "<li data-price=7 class=x>a").matchedAttributes =
      some [[⟨⟨.none, "data-price"⟩, "7"⟩, ⟨⟨.none, "class"⟩, "x"⟩]] := by decide +kernel
  obtain ⟨selector, hselector, hmatched⟩ := Option.map_eq_some_iff.1 hread
  obtain ⟨⟨t, ht, hmatch⟩, hattributes⟩ := Document.attributes_of_matchedAttributes_eq hmatched
  have hcarries : t.place.Carries "data-price" "7" := by
    constructor <;> simp [hattributes t ht hmatch]
  obtain ⟨-, p, hp, hall⟩ := (attribute_captured hk hlower (by decide) (by decide) hf hfield).2
    "li" selector hs hselector
  exact ⟨p, hp, hall _ t ht hmatch "7" hcarries []⟩

/-- An attribute of vector graphics with a capital letter in its name is not captured by its
name, and neither is an attribute of the vocabulary of links. -/
theorem attribute_not_captured :
    ((∃ selector, Css.Selector.read? "svg" = some selector ∧
        ∃ t ∈ (Document.parse "<svg attributeName=x>").root.postorder,
          selector.matches t.place = true ∧
            t.place.attributes = [⟨⟨.none, "attributeName"⟩, "x"⟩]) ∧
      ∃ p, compile "svg (attributeName A)" = .ok p ∧
        ∀ records, p.findAll (Document.parse "<svg attributeName=x>") .dynamic records =
          (.error (.noMatch "svg"), records)) ∧
    (∃ selector, Css.Selector.read? "math" = some selector ∧
        ∃ t ∈ (Document.parse "<math xlink:href=u>").root.postorder,
          selector.matches t.place = true ∧
            t.place.attributes = [⟨⟨.xlink, "href"⟩, "u"⟩]) ∧
      ∃ p, compile "math (href A)" = .ok p ∧
        ∀ records, p.findAll (Document.parse "<math xlink:href=u>") .dynamic records =
          (.error (.noMatch "math"), records) := by
  have hf : IsLexeme .capture "A".toList (.identifier "A") :=
    isLexeme_identifier (c := 'A') (t := []) rfl (by simp) (by simp)
  have hfield : IsTarget "A" ⟨"A", []⟩ := parse_eq_ok_iff.1 (by decide +kernel)
  constructor
  · have hs : IsLexeme .line "svg".toList (.selector "svg") :=
      isLexeme_selector (c := 's') (t := ['v', 'g']) rfl (by simp) (by simp)
    have hk : IsLexeme .capture "attributeName".toList (.identifier "attributeName") :=
      isLexeme_identifier (c := 'a')
        (t := ['t', 't', 'r', 'i', 'b', 'u', 't', 'e', 'N', 'a', 'm', 'e']) rfl
        (by simp) (by simp)
    have hlower : Text.lower "attributeName" = "attributename" := by decide +kernel
    exact findAll_of_matchedAttributes hs hk (by simp [hlower]) (by simp [hlower]) hf hfield
      (by decide +kernel) (by simp [hlower])
  · have hs : IsLexeme .line "math".toList (.selector "math") :=
      isLexeme_selector (c := 'm') (t := ['a', 't', 'h']) rfl (by simp) (by simp)
    have hk : IsLexeme .capture "href".toList (.identifier "href") :=
      isLexeme_identifier (c := 'h') (t := ['r', 'e', 'f']) rfl (by simp) (by simp)
    have hlower : Text.lower "href" = "href" := by decide +kernel
    exact findAll_of_matchedAttributes hs hk (by simp [hlower]) (by simp [hlower]) hf hfield
      (by decide +kernel) (by simp)

end Harvest.Pattern
