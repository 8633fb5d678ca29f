import Harvest.Proofs.Settings.Place

/-!
# Layers of Settings

The defaults, each configuration file and the values for single paths are layers: lists of
assignments that come one after the other. What a layer gives for a place is what would stand
there if the layer stood alone. As long as no place is a table in one layer and something else in
another one, a single value that stands at a place after all layers is the one that the last layer
to give anything there gives, and nothing stands where no layer gives anything.

## Main results

* `standing?_eq_made`: what stands at a place is made of the changes at that place.
* `Sources.given_eq_standing?`: single values come from the last layer that gives one.
* `Sources.standing?_ne_none_iff`: something stands where some layer gives something.
-/

namespace Harvest.Settings

/-! ### Assignments as changes -/

/-- Assignments as changes of the outermost table. -/
def changes (as : List Assignment) : List Change :=
  as.map fun a => ⟨a.1.steps, a.2⟩

/-- Assignments after others are changes after others. -/
theorem changes_append (as as' : List Assignment) :
    changes (as ++ as') = changes as ++ changes as' :=
  List.map_append

/-- An assignment leads to a key, so it is a change of a table. -/
theorem isTable_of_mem_changes {as : List Assignment} {c : Change} (h : c ∈ changes as) :
    c.isTable = true := by
  obtain ⟨a, -, rfl⟩ := List.mem_map.1 h
  rfl

/-- Assignments and the changes that they are make the same value. -/
theorem foldl_laid_changes (as : List Assignment) (base : Value) :
    (changes as).foldl laid (some base) = some (base.assignAll as) := by
  induction as generalizing base with
  | nil => rfl
  | cons a as ih => exact ih (base.assign a.1 a.2)

/-- Changes come to something at a place if one of them does. -/
theorem changesAt_ne_nil_iff {cs : List Change} {place : List String} :
    changesAt cs place ≠ [] ↔ ∃ c ∈ cs, changesAt [c] place ≠ [] := by
  induction cs with
  | nil =>
      rw [changesAt_nil]
      exact ⟨fun h => absurd rfl h, nofun⟩
  | cons c cs ih =>
      rw [← List.singleton_append, changesAt_append, ne_eq, List.append_eq_nil_iff, not_and_or,
        ← ne_eq, ← ne_eq, ih, List.singleton_append, List.exists_mem_cons_iff]

/-- What comes from fewer changes comes from all of them. -/
theorem changesAt_subset {cs cs' : List Change} (h : cs' ⊆ cs) (place : List String) :
    changesAt cs' place ⊆ changesAt cs place := by
  induction place generalizing cs cs' with
  | nil => exact h
  | cons name place ih =>
      refine ih fun c hc => ?_
      obtain ⟨d, hd, hc⟩ := List.mem_flatMap.1 hc
      exact List.mem_flatMap.2 ⟨d, h hd, hc⟩

/-- Fewer changes are consistent if all of them are. -/
theorem Consistent.mono {cs cs' : List Change} (h : Consistent cs) (hsubset : cs' ⊆ cs) :
    Consistent cs' :=
  fun place => (h place).imp
    (fun htables c hc => htables c (changesAt_subset hsubset place hc))
    (fun hothers c hc => hothers c (changesAt_subset hsubset place hc))

/-! ### What stands at a place -/

/-- What stands at a place if assignments stand alone. -/
def standing? (as : List Assignment) (place : List String) : Option Value :=
  ((Value.table []).assignAll as).at? place

/-- Something is made by any change. -/
theorem made_eq_none_iff {cs : List Change} : made cs = none ↔ cs = [] := by
  rcases List.eq_nil_or_concat' cs with rfl | ⟨before, c, rfl⟩
  · exact ⟨fun _ => rfl, fun _ => rfl⟩
  · rw [made_append_singleton]
    exact ⟨nofun, fun h => absurd h (List.append_ne_nil_of_right_ne_nil _ (List.cons_ne_nil _ _))⟩

/-- **What stands at a place** after assignments is made of the changes at that place. -/
theorem standing?_eq_made {as : List Assignment} (h : Consistent (changes as)) (name : String)
    (place : List String) :
    standing? as (name :: place) = made (changesAt (changes as) (name :: place)) := by
  have htables : ∀ c ∈ changes as, c.isTable = true := fun c => isTable_of_mem_changes
  have hentries := lookup_foldl_laid htables (some (.table [])) name
  rw [foldl_laid_changes] at hentries
  rw [standing?, Value.at?, changesAt, ← at?_made (h.under name) place]
  exact congrArg (fun v => Option.bind v _) hentries

/-- Something stands at a place if and only if some change comes to something there. -/
theorem standing?_ne_none_iff_changes {as : List Assignment} (h : Consistent (changes as))
    (name : String) (place : List String) :
    standing? as (name :: place) ≠ none ↔ ∃ c ∈ changes as, changesAt [c] (name :: place) ≠ [] := by
  rw [standing?_eq_made h, ne_eq, made_eq_none_iff]
  exact changesAt_ne_nil_iff

/-- A table stands at a place where some of the assignments lay one. -/
theorem exists_table_standing? {as : List Assignment} (h : Consistent (changes as))
    {name : String} {place : List String} {c : Change}
    (hc : c ∈ changesAt (changes as) (name :: place)) (htable : c.isTable = true) :
    ∃ entries, standing? as (name :: place) = some (.table entries) := by
  rw [standing?_eq_made h]
  rcases h (name :: place) with htables | hothers
  · exact exists_table_of_made htables (List.ne_nil_of_mem hc)
  · exact absurd htable (by rw [hothers c hc]; exact Bool.false_ne_true)

/-! ### Values that are laid as a whole -/

/-- No path leads to an item of a list. -/
def KeysOnly (as : List Assignment) : Prop :=
  ∀ a ∈ as, ∀ step ∈ a.1.rest, ∃ name, step = .key name

/-- The steps that are left at a place are steps of the paths there. -/
theorem steps_of_mem_changesAt {cs : List Change} {place : List String} {c : Change}
    (hc : c ∈ changesAt cs place) : ∃ d ∈ cs, c.steps ⊆ d.steps := by
  induction place generalizing cs with
  | nil => exact ⟨c, hc, List.Subset.refl _⟩
  | cons name place ih =>
      obtain ⟨d, hd, hsteps⟩ := ih hc
      obtain ⟨e, he, hd⟩ := List.mem_flatMap.1 hd
      refine ⟨e, he, fun step hstep => ?_⟩
      have hstep := hsteps hstep
      unfold Change.under at hd
      split at hd
      · split at hd
        · obtain rfl := List.mem_singleton.1 hd
          exact List.mem_cons_of_mem _ hstep
        · cases hd
      · obtain ⟨entry, -, rfl⟩ := List.mem_map.1 hd
        cases hstep
      · cases hd

/-- Without paths to items of lists, every step that is left at a place is a key. -/
theorem KeysOnly.exists_key {as : List Assignment} (h : KeysOnly as) {place : List String}
    {c : Change} (hc : c ∈ changesAt (changes as) place) {step : Step} (hstep : step ∈ c.steps) :
    ∃ name, step = .key name := by
  obtain ⟨d, hd, hsteps⟩ := steps_of_mem_changesAt hc
  obtain ⟨a, ha, rfl⟩ := List.mem_map.1 hd
  rcases List.mem_cons.1 (hsteps hstep) with rfl | hrest
  · exact ⟨_, rfl⟩
  · exact h a ha step hrest

/-- A value that is no table and no list. -/
structure Value.IsSingle (v : Value) : Prop where
  /-- It is no table. -/
  ne_table : ∀ entries, v ≠ .table entries
  /-- It is no list. -/
  ne_list : ∀ items, v ≠ .list items

/-- A value that is read as a text is a single one. -/
theorem Value.IsSingle.of_toText {v : Value} {text : String} (h : v.toText = .ok text) :
    v.IsSingle := by
  constructor
  · rintro entries rfl
    cases h
  · rintro items rfl
    cases h

/-- A value that is read as a truth value is a single one. -/
theorem Value.IsSingle.of_toBoolean {v : Value} {b : Bool} (h : v.toBoolean = .ok b) :
    v.IsSingle := by
  constructor
  · rintro entries rfl
    cases h
  · rintro items rfl
    cases h

/-- Where something else than a table stands, no change is one of a table. -/
theorem isTable_eq_false_of_standing? {as : List Assignment} (h : Consistent (changes as))
    {name : String} {place : List String} {v : Value}
    (hstanding : standing? as (name :: place) = some v) (hv : ∀ entries, v ≠ .table entries) :
    ∀ c ∈ changesAt (changes as) (name :: place), c.isTable = false := by
  rw [standing?_eq_made h] at hstanding
  rcases h (name :: place) with htables | hothers
  · obtain ⟨entries, hmade⟩ := exists_table_of_made htables fun hnil => by
      rw [hnil] at hstanding
      cases hstanding
    rw [hmade] at hstanding
    exact absurd (Option.some.inj hstanding).symm (hv entries)
  · exact hothers

/-- Where some change is none of a table, no table stands. -/
theorem ne_table_of_standing? {as : List Assignment} (h : Consistent (changes as))
    {name : String} {place : List String} {c : Change}
    (hc : c ∈ changesAt (changes as) (name :: place)) (hother : c.isTable = false) {v : Value}
    (hstanding : standing? as (name :: place) = some v) : ∀ entries, v ≠ .table entries := by
  rintro entries rfl
  rcases h (name :: place) with htables | hothers
  · exact Bool.false_ne_true (hother.symm.trans (htables c hc))
  · rw [standing?_eq_made h] at hstanding
    have hlast := getLast?_of_made hothers hstanding fun _ => Value.noConfusion
    exact Bool.false_ne_true (hothers _ (List.mem_of_getLast? hlast)).symm

/-- A single value that stands at a place has been laid there as a whole, by the last change. -/
theorem getLast?_changesAt {as : List Assignment} (h : Consistent (changes as)) {name : String}
    {place : List String} {v : Value} (hstanding : standing? as (name :: place) = some v)
    (hv : v.IsSingle) : (changesAt (changes as) (name :: place)).getLast? = some ⟨[], v⟩ := by
  have hothers := isTable_eq_false_of_standing? h hstanding hv.ne_table
  rw [standing?_eq_made h] at hstanding
  exact getLast?_of_made hothers hstanding hv.ne_list

/-- Without paths to items of lists, the same holds of lists. -/
theorem getLast?_changesAt_of_keysOnly {as : List Assignment} (h : Consistent (changes as))
    (hkeys : KeysOnly as) {name : String} {place : List String} {v : Value}
    (hstanding : standing? as (name :: place) = some v) (hv : ∀ entries, v ≠ .table entries) :
    (changesAt (changes as) (name :: place)).getLast? = some ⟨[], v⟩ := by
  -- a change that is none of a table lays a whole value or leads to an item of a list
  have hothers := isTable_eq_false_of_standing? h hstanding hv
  rw [standing?_eq_made h] at hstanding
  obtain heq | ⟨before, c, heq⟩ :=
    List.eq_nil_or_concat' (changesAt (changes as) (name :: place))
  · rw [heq] at hstanding
    cases hstanding
  · have hc : c ∈ changesAt (changes as) (name :: place) := by
      rw [heq]
      exact List.mem_append_right _ List.mem_cons_self
    rw [heq, made_append_singleton] at hstanding
    rw [heq, List.getLast?_concat]
    obtain ⟨steps, w⟩ := c
    cases steps with
    | nil =>
        have hw : ∀ entries, w ≠ .table entries := by
          rintro entries rfl
          exact Bool.false_ne_true (hothers _ hc).symm
        rw [Change.apply, Value.assignSteps, Value.layOver_of_ne_table hw] at hstanding
        rw [Option.some.inj hstanding]
    | cons step rest =>
        obtain ⟨key, rfl⟩ := hkeys.exists_key hc List.mem_cons_self
        exact absurd (hothers _ hc).symm Bool.false_ne_true

/-- What is known of a place from the last change there: nothing without changes, and a value
that is laid as a whole and is no table. -/
structure LastGiven (cs : List Change) (given : Option Value) : Prop where
  /-- Nothing is known without changes. -/
  none_of_nil : cs = [] → given = none
  /-- The value that is laid last. -/
  some_of_getLast? : ∀ v, (∀ entries, v ≠ .table entries) → cs.getLast? = some ⟨[], v⟩ →
    given = some v

/-- Later changes come before earlier ones. -/
theorem LastGiven.append {cs cs' : List Change} {given given' : Option Value}
    (h : LastGiven cs given) (h' : LastGiven cs' given') :
    LastGiven (cs ++ cs') (given'.or given) := by
  constructor
  · intro hnil
    obtain ⟨hcs, hcs'⟩ := List.append_eq_nil_iff.1 hnil
    rw [h.none_of_nil hcs, h'.none_of_nil hcs']
    rfl
  · intro v hv hlast
    by_cases hcs' : cs' = []
    · rw [hcs', List.append_nil] at hlast
      rw [h'.none_of_nil hcs', Option.none_or]
      exact h.some_of_getLast? v hv hlast
    · rw [List.getLast?_append_of_ne_nil _ hcs'] at hlast
      rw [h'.some_of_getLast? v hv hlast]
      rfl

/-- Without changes nothing is known. -/
theorem LastGiven.nil : LastGiven [] none :=
  ⟨fun _ => rfl, nofun⟩

/-- What assignments give on their own. -/
theorem lastGiven_standing? {as : List Assignment} (h : Consistent (changes as)) (name : String)
    (place : List String) :
    LastGiven (changesAt (changes as) (name :: place)) (standing? as (name :: place)) := by
  rw [standing?_eq_made h]
  constructor
  · exact made_eq_none_iff.2
  · intro v hv hlast
    obtain ⟨before, hbefore⟩ := List.getLast?_eq_some_iff.1 hlast
    rw [hbefore, made_append_singleton, Change.apply, Value.assignSteps,
      Value.layOver_of_ne_table hv]

/-! ### Files -/

/-- What the last of some configuration files that gives anything for a place gives. -/
def givenByFiles? (files : List Entries) (place : List String) : Option Value :=
  files.reverse.findSome? fun file => standing? (assignments file) place

/-- What the last of the configuration files gives is what is known from all of them. -/
theorem lastGiven_files {files : List Entries}
    (h : Consistent (changes (files.flatMap assignments))) (name : String) (place : List String) :
    LastGiven (changesAt (changes (files.flatMap assignments)) (name :: place))
      (givenByFiles? files (name :: place)) := by
  induction files with
  | nil =>
      rw [List.flatMap_nil, changes, List.map_nil, changesAt_nil]
      exact .nil
  | cons file files ih =>
      rw [List.flatMap_cons, changes_append] at h ⊢
      have hfile : Consistent (changes (assignments file)) :=
        h.mono (List.subset_append_left _ _)
      have hfiles : Consistent (changes (files.flatMap assignments)) :=
        h.mono (List.subset_append_right _ _)
      -- the first file is asked last
      have hgiven : givenByFiles? (file :: files) (name :: place) =
          (givenByFiles? files (name :: place)).or
            (standing? (assignments file) (name :: place)) := by
        rw [givenByFiles?, List.reverse_cons, List.findSome?_append, List.findSome?_singleton]
        rfl
      rw [changesAt_append, hgiven]
      exact (lastGiven_standing? hfile name place).append (ih hfiles)

/-! ### Values for single paths -/

/-- A step with its key in lower case. -/
def Step.lowered : Step → Step
  | .key name => .key (Text.lower name)
  | .index i => .index i

/-- The steps of a path, with all keys in lower case. -/
def Path.lowered (p : Path) : List Step :=
  p.steps.map Step.lowered

/-- The value that is given last to a place, by a path to exactly that place. -/
def overrideAt? (overrides : List Assignment) (place : List String) : Option Value :=
  (overrides.reverse.find? fun o => o.1.lowered = place.map .key).map Prod.snd

/-- The steps that lead on from a place. -/
def stepsBeyond? : List Step → List String → Option (List Step)
  | steps, [] => some steps
  | .key k :: rest, name :: place =>
      if Text.lower k = name then stepsBeyond? rest place else none
  | _, _ => none

/-- Steps lead on from a place if they begin with the way to it. -/
theorem stepsBeyond?_eq_some_iff {steps beyond : List Step} {place : List String} :
    stepsBeyond? steps place = some beyond ↔
      ∃ way, steps = way ++ beyond ∧ way.map Step.lowered = place.map .key := by
  induction place generalizing steps with
  | nil =>
      rw [stepsBeyond?]
      constructor
      · intro h
        exact ⟨[], Option.some.inj h, rfl⟩
      · rintro ⟨way, rfl, hway⟩
        rw [List.map_eq_nil_iff.1 hway, List.nil_append]
  | cons name place ih =>
      constructor
      · intro h
        unfold stepsBeyond? at h
        split at h
        · cases ‹name :: place = []›
        · rename_i k rest name' place' heq
          obtain ⟨rfl, rfl⟩ := List.cons.inj heq
          split at h
          · rename_i hk
            obtain ⟨way, rfl, hway⟩ := ih.1 h
            refine ⟨.key k :: way, rfl, ?_⟩
            rw [List.map_cons, hway, Step.lowered, hk, List.map_cons]
          · cases h
        · cases h
      · rintro ⟨way, rfl, hway⟩
        cases way with
        | nil => cases hway
        | cons step way =>
            obtain ⟨hstep, htail⟩ := List.cons.inj hway
            cases step with
            | index i => cases hstep
            | key k =>
                rw [List.cons_append, stepsBeyond?, if_pos (Step.key.inj hstep)]
                exact ih.2 ⟨way, rfl, htail⟩

/-- What a value for a single path comes to at a place, unless it is a table. -/
theorem changesAt_singleton {v : Value} (hv : ∀ entries, v ≠ .table entries) (steps : List Step)
    (place : List String) :
    changesAt [⟨steps, v⟩] place =
      ((stepsBeyond? steps place).map fun beyond => Change.mk beyond v).toList := by
  induction place generalizing steps with
  | nil => rw [changesAt, stepsBeyond?]; rfl
  | cons name place ih =>
      rw [changesAt, List.flatMap_singleton]
      cases steps with
      | nil =>
          have hunder : (Change.mk [] v).under name = [] := Change.under_of_not_isTable (by
            cases v with
            | table entries => exact absurd rfl (hv entries)
            | _ => rfl) name
          rw [hunder, changesAt_nil]
          rfl
      | cons step rest =>
          cases step with
          | index i => exact changesAt_nil place
          | key k =>
              rw [Change.under, stepsBeyond?]
              by_cases hk : Text.lower k = name
              · rw [if_pos hk, if_pos hk]
                exact ih rest
              · rw [if_neg hk, if_neg hk]
                exact changesAt_nil place

/-- A value for a single path comes to something at the places on the way to its end. -/
theorem changesAt_override_ne_nil_iff {o : Assignment} (ho : ∀ entries, o.2 ≠ .table entries)
    (place : List String) :
    changesAt [⟨o.1.steps, o.2⟩] place ≠ [] ↔ place.map .key <+: o.1.lowered := by
  rw [changesAt_singleton ho]
  constructor
  · intro h
    cases hbeyond : stepsBeyond? o.1.steps place with
    | none =>
        rw [hbeyond] at h
        exact absurd rfl h
    | some beyond =>
        obtain ⟨way, hway, hlowered⟩ := stepsBeyond?_eq_some_iff.1 hbeyond
        rw [Path.lowered, hway, List.map_append, hlowered]
        exact List.prefix_append _ _
  · rintro ⟨rest, hrest⟩
    obtain ⟨way, beyond, hsteps, hway, -⟩ := List.map_eq_append_iff.1 hrest.symm
    rw [stepsBeyond?_eq_some_iff.2 ⟨way, hsteps, hway⟩]
    exact List.cons_ne_nil _ _

/-- A value for a single path gives that value for the place where the path leads. -/
theorem lastGiven_override {o : Assignment} (ho : ∀ entries, o.2 ≠ .table entries)
    (place : List String) :
    LastGiven (changesAt (changes [o]) place)
      (if o.1.lowered = place.map .key then some o.2 else none) := by
  change LastGiven (changesAt [⟨o.1.steps, o.2⟩] place) _
  rw [changesAt_singleton ho]
  constructor
  · intro hnil
    rw [if_neg]
    intro hlowered
    rw [stepsBeyond?_eq_some_iff.2 ⟨o.1.steps, (List.append_nil _).symm, hlowered⟩] at hnil
    cases hnil
  · intro v _ hlast
    cases hbeyond : stepsBeyond? o.1.steps place with
    | none =>
        rw [hbeyond] at hlast
        cases hlast
    | some beyond =>
        rw [hbeyond] at hlast
        obtain ⟨rfl, rfl⟩ := Change.mk.inj (Option.some.inj hlast)
        obtain ⟨way, hway, hlowered⟩ := stepsBeyond?_eq_some_iff.1 hbeyond
        rw [List.append_nil] at hway
        rw [Path.lowered, hway, if_pos hlowered]

/-- What is given last to exactly a place is what is known from all single paths. -/
theorem lastGiven_overrides {overrides : List Assignment}
    (h : ∀ o ∈ overrides, ∀ entries, o.2 ≠ .table entries) (place : List String) :
    LastGiven (changesAt (changes overrides) place) (overrideAt? overrides place) := by
  induction overrides with
  | nil =>
      rw [changes, List.map_nil, changesAt_nil]
      exact .nil
  | cons o overrides ih =>
      obtain ⟨ho, hoverrides⟩ := List.forall_mem_cons.1 h
      have hgiven : overrideAt? (o :: overrides) place =
          (overrideAt? overrides place).or
            (if o.1.lowered = place.map .key then some o.2 else none) := by
        rw [overrideAt?, List.reverse_cons, List.find?_append, Option.map_or, overrideAt?,
          List.find?_singleton]
        congr 1
        by_cases hlowered : o.1.lowered = place.map .key
        · rw [if_pos hlowered, if_pos (decide_eq_true hlowered)]
          rfl
        · rw [if_neg hlowered, if_neg (by simpa using hlowered)]
          rfl
      rw [show changes (o :: overrides) = changes [o] ++ changes overrides from rfl,
        changesAt_append, hgiven]
      exact (lastGiven_override ho place).append (ih hoverrides)

/-! ### All layers -/

namespace Sources

variable {s : Sources} {files : List Entries}

/-- What sources give for a place: the last value given to exactly that place, else what the last
configuration file to give anything there gives, else what the defaults give. -/
def given (s : Sources) (files : List Entries) (place : List String) : Option Value :=
  (overrideAt? s.overrides place).or
    ((givenByFiles? files place).or (standing? (Settings.assignments defaults) place))

/-- Some source other than the defaults concerns a place: a configuration file that gives something
there, or a path to that place or beyond. -/
def Concerns (s : Sources) (files : List Entries) (place : List String) : Prop :=
  (∃ file ∈ files, standing? (Settings.assignments file) place ≠ none) ∨
    ∃ o ∈ s.overrides, place.map .key <+: o.1.lowered

variable (hscalar : ∀ o ∈ s.overrides, ∀ entries, o.2 ≠ .table entries)
  (hconsistent : Consistent (changes (s.assignments files)))

/-- The changes of all sources are those of each layer in turn. -/
theorem changes_assignments :
    changes (s.assignments files) =
      changes (Settings.assignments defaults) ++ changes (files.flatMap Settings.assignments) ++
        changes s.overrides := by
  rw [assignments, List.flatMap_cons, changes_append, changes_append]

/-- The changes of the defaults are among the changes of all sources. -/
theorem mem_changesAt_of_defaults {place : List String} {c : Change}
    (hc : c ∈ changesAt (changes (Settings.assignments defaults)) place) :
    c ∈ changesAt (changes (s.assignments files)) place := by
  rw [changes_assignments, changesAt_append, changesAt_append]
  exact List.mem_append_left _ (List.mem_append_left _ hc)

include hconsistent

/-- The defaults are consistent if all sources are. -/
theorem consistent_defaults : Consistent (changes (Settings.assignments defaults)) := by
  rw [changes_assignments] at hconsistent
  exact hconsistent.mono
    (List.Subset.trans (List.subset_append_left _ _) (List.subset_append_left _ _))

/-- The configuration files are consistent if all sources are. -/
theorem consistent_files : Consistent (changes (files.flatMap Settings.assignments)) := by
  rw [changes_assignments] at hconsistent
  exact hconsistent.mono
    (List.Subset.trans (List.subset_append_right _ _) (List.subset_append_left _ _))

include hscalar

/-- What the sources give for a place is what is known from the last change there. -/
theorem lastGiven_given (name : String) (place : List String) :
    LastGiven (changesAt (changes (s.assignments files)) (name :: place))
      (s.given files (name :: place)) := by
  rw [changes_assignments, changesAt_append, changesAt_append]
  exact ((lastGiven_standing? (consistent_defaults hconsistent) name place).append
    (lastGiven_files (consistent_files hconsistent) name place)).append
      (lastGiven_overrides hscalar _)

/-- **Single values** come from the last source that gives one. -/
theorem given_eq_standing? {name : String} {place : List String}
    (hsingle : ∀ v, standing? (s.assignments files) (name :: place) = some v → v.IsSingle) :
    s.given files (name :: place) = standing? (s.assignments files) (name :: place) := by
  have hgiven := lastGiven_given hscalar hconsistent name place
  cases hstanding : standing? (s.assignments files) (name :: place) with
  | none =>
      rw [standing?_eq_made hconsistent] at hstanding
      exact hgiven.none_of_nil (made_eq_none_iff.1 hstanding)
  | some v =>
      have hv := hsingle v hstanding
      exact hgiven.some_of_getLast? v hv.ne_table (getLast?_changesAt hconsistent hstanding hv)

/-- Whole lists come from the last source that gives one, too. -/
theorem given_of_keysOnly (hkeys : KeysOnly (s.assignments files)) {name : String}
    {place : List String} {v : Value}
    (hstanding : standing? (s.assignments files) (name :: place) = some v)
    (hv : ∀ entries, v ≠ .table entries) : s.given files (name :: place) = some v :=
  (lastGiven_given hscalar hconsistent name place).some_of_getLast? v hv
    (getLast?_changesAt_of_keysOnly hconsistent hkeys hstanding hv)

/-- **Something stands** at a place if and only if some source concerns it. -/
theorem standing?_ne_none_iff (name : String) (place : List String) :
    standing? (s.assignments files) (name :: place) ≠ none ↔
      standing? (Settings.assignments defaults) (name :: place) ≠ none ∨
        s.Concerns files (name :: place) := by
  have hfiles := consistent_files hconsistent
  have hsubset : ∀ file ∈ files, changes (Settings.assignments file) ⊆
      changes (files.flatMap Settings.assignments) := fun file hmem =>
    List.map_subset _ fun a ha => List.mem_flatMap.2 ⟨file, hmem, ha⟩
  have hfile : ∀ file ∈ files, Consistent (changes (Settings.assignments file)) :=
    fun file hmem => hfiles.mono (hsubset file hmem)
  rw [standing?_ne_none_iff_changes hconsistent,
    standing?_ne_none_iff_changes (consistent_defaults hconsistent), changes_assignments]
  constructor
  · rintro ⟨c, hc, hne⟩
    rcases List.mem_append.1 hc with hc | hc
    · rcases List.mem_append.1 hc with hc | hc
      · exact .inl ⟨c, hc, hne⟩
      · obtain ⟨a, ha, rfl⟩ := List.mem_map.1 hc
        obtain ⟨file, hmem, ha⟩ := List.mem_flatMap.1 ha
        refine .inr (.inl ⟨file, hmem, ?_⟩)
        exact (standing?_ne_none_iff_changes (hfile file hmem) _ _).2
          ⟨_, List.mem_map_of_mem ha, hne⟩
    · obtain ⟨o, ho, rfl⟩ := List.mem_map.1 hc
      exact .inr (.inr ⟨o, ho, (changesAt_override_ne_nil_iff (hscalar o ho) _).1 hne⟩)
  · rintro (⟨c, hc, hne⟩ | ⟨file, hmem, hne⟩ | ⟨o, ho, hprefix⟩)
    · exact ⟨c, List.mem_append_left _ (List.mem_append_left _ hc), hne⟩
    · obtain ⟨c, hc, hne⟩ := (standing?_ne_none_iff_changes (hfile file hmem) _ _).1 hne
      have hc := hsubset file hmem hc
      exact ⟨c, List.mem_append_left _ (List.mem_append_right _ hc), hne⟩
    · exact ⟨_, List.mem_append_right _ (List.mem_map_of_mem ho),
        (changesAt_override_ne_nil_iff (hscalar o ho) _).2 hprefix⟩

end Sources

end Harvest.Settings
