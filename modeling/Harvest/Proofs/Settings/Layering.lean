import Harvest.Proofs.Settings.ConfiguredFilters
import Harvest.Proofs.Settings.Layers

/-!
# Layered Settings

Settings are built from sources that are named one after the other, files and values for single
paths in any order. If the sources are consistent, so that no place is a table for one of them and
something else for another one, then every setting comes from the last source that gives it, and a
filter that some source concerns is there whatever is laid over it. Only a filter that is given as
a list is not put together from parts: its pattern and its replacement are the first two items of
the list, and a list that is laid over another one replaces it with all its items.

## Main results

* `ofCalls_eq`: how sources are named, in whatever order.
* `groups_of_ofValue`, `member?_of_toReplaceFilter`: how settings are read from a table.
* `build_layered`: where each setting comes from.
* `list_replaces_replacement`: filters that are given as lists.
-/

namespace Harvest.Settings

open Harvest.Filter (ReplaceFilter)

/-! ### Naming sources -/

/-- A source that is named for the settings. -/
inductive Call where
  /-- A configuration file, as its text, or as nothing if it is missing. -/
  | addFile (content : Option String)
  /-- A value for a single path. -/
  | setOverride (key : String) (value : Value)

namespace Call

/-- The file that is named. -/
def file? : Call → Option (Option String)
  | .addFile content => some content
  | .setOverride _ _ => none

/-- The key and the value that are named. -/
def override? : Call → Option (String × Value)
  | .addFile _ => none
  | .setOverride key value => some (key, value)

end Call

namespace Sources

/-- Names one source more. -/
def call (s : Sources) : Call → Except Fault Sources
  | .addFile content => .ok (s.addFile content)
  | .setOverride key value => s.setOverride key value

/-- The sources that are named one after the other. -/
def ofCalls (calls : List Call) : Except Fault Sources :=
  calls.foldlM call empty

/-- A value for the path that a key writes. -/
def readOverride (o : String × Value) : Except Fault Assignment :=
  match Path.read? o.1 with
  | some path => .ok (path, o.2)
  | none => .error (.malformedKey o.1)

/-- A single value is added behind the others once its path is read. -/
theorem setOverride_eq (s : Sources) (key : String) (value : Value) :
    s.setOverride key value =
      (readOverride (key, value)).map fun o => { s with overrides := s.overrides ++ [o] } := by
  rw [setOverride, readOverride]
  cases Path.read? key <;> rfl

/-- Calls collect files and single values, each in their order. -/
theorem foldlM_call (calls : List Call) (s : Sources) :
    calls.foldlM call s = ((calls.filterMap Call.override?).mapM readOverride).map fun overrides =>
      ⟨s.files ++ calls.filterMap Call.file?, s.overrides ++ overrides⟩ := by
  induction calls generalizing s with
  | nil =>
      change Except.ok s = .ok ⟨s.files ++ [], s.overrides ++ []⟩
      rw [List.append_nil, List.append_nil]
  | cons c calls ih =>
      cases c with
      | addFile content =>
          change calls.foldlM call (s.addFile content) =
            ((calls.filterMap Call.override?).mapM readOverride).map fun overrides =>
              ⟨s.files ++ content :: calls.filterMap Call.file?, s.overrides ++ overrides⟩
          rw [ih, List.append_cons s.files]
          rfl
      | setOverride key value =>
          change (s.setOverride key value >>= fun s => calls.foldlM call s) =
            (((key, value) :: calls.filterMap Call.override?).mapM readOverride).map
              fun overrides => ⟨s.files ++ calls.filterMap Call.file?, s.overrides ++ overrides⟩
          rw [setOverride_eq, List.mapM_cons]
          cases readOverride (key, value) with
          | error fault => rfl
          | ok o =>
              change calls.foldlM call { s with overrides := s.overrides ++ [o] } =
                ((calls.filterMap Call.override?).mapM readOverride >>= fun overrides =>
                  .ok (o :: overrides)).map _
              rw [ih]
              cases (calls.filterMap Call.override?).mapM readOverride with
              | error fault => rfl
              | ok overrides =>
                  change Except.ok (Sources.mk _ (s.overrides ++ [o] ++ overrides)) = _
                  rw [← List.append_cons]
                  rfl

/-- **Naming sources.** Files and values for single paths are kept apart, in the order in which
they are named. -/
theorem ofCalls_eq (calls : List Call) :
    ofCalls calls = ((calls.filterMap Call.override?).mapM readOverride).map fun overrides =>
      ⟨calls.filterMap Call.file?, overrides⟩ :=
  foldlM_call calls empty

/-- The order between files and values for single paths does not matter. -/
theorem ofCalls_congr {calls calls' : List Call}
    (hfiles : calls'.filterMap Call.file? = calls.filterMap Call.file?)
    (hoverrides : calls'.filterMap Call.override? = calls.filterMap Call.override?) :
    ofCalls calls' = ofCalls calls := by
  rw [ofCalls_eq, ofCalls_eq, hfiles, hoverrides]

end Sources

/-! ### Reading settings -/

/-- A member that has to be there is one that may be missing and is not. -/
theorem member_eq_ok_iff {position : Nat} {name : String} {v w : Value} :
    v.member position name = .ok w ↔ v.member? position name = .ok (some w) := by
  rw [Value.member]
  cases v.member? position name with
  | error fault => simp
  | ok member =>
      cases member with
      | none => simp
      | some u => simp

/-- The groups that settings are read from, apart from the filters. -/
theorem groups_of_ofValue {entries : Entries} {settings : Settings}
    (h : ofValue (.table entries) = .ok settings) :
    ∃ output pretty mode logging filter,
      entries.lookup "output" = some output ∧ output.member 0 "pretty" = .ok pretty ∧
      pretty.toBoolean = .ok settings.pretty ∧ output.member 1 "mode" = .ok mode ∧
      mode.toMode = .ok settings.mode ∧ entries.lookup "logging" = some logging ∧
      logging.member 0 "filter" = .ok filter ∧ filter.toText = .ok settings.logging := by
  rw [ofValue] at h
  obtain ⟨output, houtput, h⟩ := bind_eq_ok_iff.1 h
  obtain ⟨pretty, hpretty, h⟩ := bind_eq_ok_iff.1 h
  obtain ⟨b, hb, h⟩ := bind_eq_ok_iff.1 h
  obtain ⟨mode, hmode, h⟩ := bind_eq_ok_iff.1 h
  obtain ⟨m, hm, h⟩ := bind_eq_ok_iff.1 h
  obtain ⟨logging, hlogging, h⟩ := bind_eq_ok_iff.1 h
  obtain ⟨filter, hfilter, h⟩ := bind_eq_ok_iff.1 h
  obtain ⟨text, htext, h⟩ := bind_eq_ok_iff.1 h
  obtain ⟨filtersValue, -, h⟩ := bind_eq_ok_iff.1 h
  have hread : (filtersValue.elim (.ok .empty) Value.toFilters >>= fun filters =>
      .ok (⟨b, m, text, filters⟩ : Settings)) = .ok settings := by
    cases filtersValue <;> exact h
  obtain ⟨filters, -, hread⟩ := bind_eq_ok_iff.1 hread
  obtain rfl := Except.ok.inj hread
  exact ⟨output, pretty, mode, logging, filter,
    Except.ok.inj (member_eq_ok_iff.1 houtput), hpretty, hb, hmode, hm,
    Except.ok.inj (member_eq_ok_iff.1 hlogging), hfilter, htext⟩

/-- The pattern and the replacement of a filter are taken as texts; a replacement that is missing
is empty. -/
structure Reads (pattern? replacement? : Option Value) (f : ReplaceFilter) : Prop where
  /-- The pattern. -/
  pattern_eq : pattern?.map Value.toText = some (.ok f.pattern)
  /-- The replacement. -/
  replacement_eq : replacement?.elim (.ok "") Value.toText = .ok f.replacement

/-- What a value that is taken as a configured filter holds. -/
theorem member?_of_toReplaceFilter {v : Value} {f : ReplaceFilter}
    (h : v.toReplaceFilter = .ok f) :
    ∃ pattern? replacement?, v.member? 0 "pattern" = .ok pattern? ∧
      v.member? 1 "replacement" = .ok replacement? ∧ Reads pattern? replacement? f := by
  rw [Value.toReplaceFilter] at h
  obtain ⟨replacement?, hreplacement?, h⟩ := bind_eq_ok_iff.1 h
  have hread : (replacement?.elim (.ok "") Value.toText >>= fun replacement =>
      v.member 0 "pattern" >>= fun w => w.toText >>= fun pattern =>
        .ok ⟨pattern, replacement⟩) = .ok f := by
    cases replacement? <;> exact h
  obtain ⟨replacement, hreplacement, hread⟩ := bind_eq_ok_iff.1 hread
  obtain ⟨w, hw, hread⟩ := bind_eq_ok_iff.1 hread
  obtain ⟨pattern, hpattern, hread⟩ := bind_eq_ok_iff.1 hread
  obtain rfl := Except.ok.inj hread
  exact ⟨some w, replacement?, member_eq_ok_iff.1 hw, hreplacement?,
    congrArg some hpattern, hreplacement⟩

/-! ### Places of settings -/

/-- A longer place is found from the value at a shorter one. -/
theorem Value.at?_append (v : Value) (place place' : List String) :
    v.at? (place ++ place') = (v.at? place).bind fun w => w.at? place' := by
  induction place generalizing v with
  | nil => rfl
  | cons name place ih =>
      rw [List.cons_append, at?, at?, Option.bind_assoc]
      exact congrArg _ (funext fun w => ih w)

/-- What stands under a key of what stands at a place. -/
theorem standing?_concat (as : List Assignment) (place : List String) (name : String) :
    standing? as (place ++ [name]) =
      (standing? as place).bind fun v => v.entries.lookup name := by
  rw [standing?, Value.at?_append]
  exact congrArg _ (funext fun v => Option.bind_fun_some _)

theorem standing?_singleton (as : List Assignment) (name : String) :
    standing? as [name] = ((Value.table []).assignAll as).entries.lookup name :=
  Option.bind_fun_some _

/-- The filters of a value stand at places of their own. -/
theorem standing?_filter (as : List Assignment) (name : String) :
    standing? as ["filters", name] =
      ((Value.table []).assignAll as).filters.lookup name := by
  refine (standing?_concat as ["filters"] name).trans ?_
  rw [standing?_singleton, Value.filters]
  cases ((Value.table []).assignAll as).entries.lookup "filters" <;> rfl

/-- A member of a table, by its name. -/
theorem standing?_member {as : List Assignment} {place : List String} {position : Nat}
    {name : String} {v w : Value} (hgroup : standing? as place = some v)
    (htable : ∃ entries, v = .table entries) (hmember : v.member position name = .ok w) :
    standing? as (place ++ [name]) = some w := by
  obtain ⟨entries, rfl⟩ := htable
  rw [standing?_concat, hgroup]
  exact Except.ok.inj (member_eq_ok_iff.1 hmember)

/-! ### Members of groups -/

/-- Settings that are built from named sources, of which the files read as the given entries. No
value for a single path is a table, and the sources are consistent. -/
structure Layered (calls : List Call) (s : Sources) (files : List Entries)
    (settings : Settings) : Prop where
  /-- The sources are the named ones. -/
  calls_eq : Sources.ofCalls calls = .ok s
  /-- The files can be read. -/
  files_eq : s.files.mapM readFile = .ok files
  /-- The settings are built from the sources. -/
  build_eq : s.build = .ok settings
  /-- No value for a single path is a table. -/
  scalar : ∀ o ∈ s.overrides, ∀ entries, o.2 ≠ .table entries
  /-- No place is a table for one source and something else for another one. -/
  consistent : Consistent (changes (s.assignments files))

/-- Where a filter comes from. The pattern and the replacement of a filter have places of their
own, unless the filter is a list: then they are its first two items, and without paths to items of
lists it is the whole list that some source gives. -/
def Sources.FilterFrom (s : Sources) (files : List Entries) (name : String)
    (f : ReplaceFilter) : Prop :=
  match standing? (s.assignments files) ["filters", name] with
  | some (.list items) =>
      Reads items[0]? items[1]? f ∧
        (KeysOnly (s.assignments files) →
          s.given files ["filters", name] = some (.list items))
  | _ =>
      Reads (s.given files ["filters", name, "pattern"])
        (s.given files ["filters", name, "replacement"]) f

/-- The defaults give the groups as tables. -/
theorem any_isTable_defaults : ∀ group ∈ ["output", "logging"],
    (changesAt (changes (assignments defaults)) [group]).any Change.isTable = true := by
  decide +kernel

theorem any_not_isTable_defaults :
    (changesAt (changes (assignments defaults)) ["output", "mode"]).any
      (fun c => !c.isTable) = true := by
  decide +kernel

/-- The defaults configure no filters. -/
theorem standing?_defaults_filters (name : String) :
    standing? (assignments defaults) ["filters", name] = none := by
  have hnone : standing? (assignments defaults) ["filters"] = none := by decide +kernel
  refine (standing?_concat _ ["filters"] name).trans ?_
  rw [hnone]
  rfl

namespace Layered

variable {calls : List Call} {s : Sources} {files : List Entries} {settings : Settings}
  (h : Layered calls s files settings)

include h

/-- The groups of the defaults are tables. -/
theorem exists_table_group {group : String} (hgroup : group ∈ ["output", "logging"]) {v : Value}
    (hv : standing? (s.assignments files) [group] = some v) : ∃ entries, v = .table entries := by
  obtain ⟨c, hc, htable⟩ := List.any_eq_true.1 (any_isTable_defaults group hgroup)
  obtain ⟨entries, hentries⟩ :=
    exists_table_standing? h.consistent (Sources.mem_changesAt_of_defaults hc) htable
  exact ⟨entries, Option.some.inj (hv.symm.trans hentries)⟩

/-- What stands where the settings are read from, apart from the filters. -/
theorem exists_standing :
    ∃ pretty mode filter,
      standing? (s.assignments files) ["output", "pretty"] = some pretty ∧
      pretty.toBoolean = .ok settings.pretty ∧
      standing? (s.assignments files) ["output", "mode"] = some mode ∧
      mode.toMode = .ok settings.mode ∧
      standing? (s.assignments files) ["logging", "filter"] = some filter ∧
      filter.toText = .ok settings.logging := by
  obtain ⟨entries, htable⟩ := exists_table_assignAll (s.assignments files) []
  have hbuild := h.build_eq
  rw [Sources.build, Sources.merged_eq h.files_eq, htable] at hbuild
  obtain ⟨output, pretty, mode, logging, filter, houtput, hpretty, hb, hmode, hm, hlogging,
    hfilter, htext⟩ := groups_of_ofValue hbuild
  have hgroup : ∀ group, standing? (s.assignments files) [group] = entries.lookup group := by
    intro group
    rw [standing?_singleton, htable]
    rfl
  rw [← hgroup] at houtput hlogging
  have houtputTable := h.exists_table_group (by decide) houtput
  have hloggingTable := h.exists_table_group (by decide) hlogging
  exact ⟨pretty, mode, filter, standing?_member houtput houtputTable hpretty, hb,
    standing?_member houtput houtputTable hmode, hm,
    standing?_member hlogging hloggingTable hfilter, htext⟩

/-- A single value comes from the last source that gives one. -/
theorem given_eq {name : String} {place : List String} {v : Value}
    (hv : standing? (s.assignments files) (name :: place) = some v) (hsingle : v.IsSingle) :
    s.given files (name :: place) = some v := by
  rw [Sources.given_eq_standing? h.scalar h.consistent, hv]
  intro w hw
  rwa [Option.some.inj (hw.symm.trans hv)]

/-- Whether the output is indented is the last value given for it. -/
theorem given_pretty :
    (s.given files ["output", "pretty"]).map Value.toBoolean = some (.ok settings.pretty) := by
  obtain ⟨pretty, -, -, hpretty, hb, -⟩ := h.exists_standing
  rw [h.given_eq hpretty (.of_toBoolean hb), Option.map_some, hb]

/-- The form of the output is the last value given for it. -/
theorem given_mode :
    (s.given files ["output", "mode"]).map Value.toMode = some (.ok settings.mode) := by
  obtain ⟨-, mode, -, -, -, hmode, hm, -⟩ := h.exists_standing
  have hsingle : mode.IsSingle := by
    constructor
    · -- the name of a mode may be the only key of a table, but the default is a text
      obtain ⟨c, hc, hother⟩ := List.any_eq_true.1 any_not_isTable_defaults
      exact ne_table_of_standing? h.consistent (Sources.mem_changesAt_of_defaults hc)
        (Bool.not_eq_eq_eq_not.1 hother) hmode
    · rintro items rfl
      cases hm
  rw [h.given_eq hmode hsingle, Option.map_some, hm]

/-- The filter of the log is the last value given for it. -/
theorem given_logging :
    (s.given files ["logging", "filter"]).map Value.toText = some (.ok settings.logging) := by
  obtain ⟨-, -, filter, -, -, -, -, hfilter, htext⟩ := h.exists_standing
  rw [h.given_eq hfilter (.of_toText htext), Option.map_some, htext]

/-- The filters of the settings, as what stands at their places. -/
theorem get?_filters_eq (name : String) :
    (settings.filters.get? name).map .ok =
      (standing? (s.assignments files) ["filters", name]).map Value.toReplaceFilter := by
  rw [standing?_filter]
  exact get?_filters_of_build h.files_eq h.build_eq name

/-- **A filter** is there if and only if a source concerns it. -/
theorem get?_filters_ne_none_iff (name : String) :
    settings.filters.get? name ≠ none ↔ s.Concerns files ["filters", name] := by
  have hstanding := Sources.standing?_ne_none_iff h.scalar h.consistent "filters" [name]
  rw [standing?_defaults_filters, or_iff_right fun hne => hne rfl] at hstanding
  have hnone := congrArg (· = none) (h.get?_filters_eq name)
  simp only [Option.map_eq_none_iff] at hnone
  rw [← hstanding, ne_eq, hnone]

/-- **The parts of a filter** come from the sources. -/
theorem filterFrom {name : String} {f : ReplaceFilter}
    (hf : settings.filters.get? name = some f) : s.FilterFrom files name f := by
  have hget := h.get?_filters_eq name
  rw [hf, Option.map_some] at hget
  obtain ⟨v, hv, hread⟩ := Option.map_eq_some_iff.1 hget.symm
  obtain ⟨pattern?, replacement?, hpattern, hreplacement, hreads⟩ :=
    member?_of_toReplaceFilter hread
  rw [Sources.FilterFrom, hv]
  cases v with
  | list items =>
      obtain rfl := Except.ok.inj hpattern
      obtain rfl := Except.ok.inj hreplacement
      exact ⟨hreads, fun hkeys => Sources.given_of_keysOnly h.scalar h.consistent
        hkeys hv fun _ => Value.noConfusion⟩
  | table entries =>
      have hplace : ∀ key, standing? (s.assignments files) ["filters", name, key] =
          entries.lookup key := by
        intro key
        refine (standing?_concat _ ["filters", name] key).trans ?_
        rw [hv]
        rfl
      obtain rfl := Except.ok.inj hpattern
      obtain rfl := Except.ok.inj hreplacement
      rw [← hplace, ← hplace] at hreads
      have hpattern : s.given files ["filters", name, "pattern"] =
          standing? (s.assignments files) ["filters", name, "pattern"] :=
        Sources.given_eq_standing? h.scalar h.consistent fun w hw => by
          have htext := hreads.pattern_eq
          rw [hw] at htext
          exact .of_toText (Option.some.inj htext)
      have hreplacement : s.given files ["filters", name, "replacement"] =
          standing? (s.assignments files) ["filters", name, "replacement"] :=
        Sources.given_eq_standing? h.scalar h.consistent fun w hw => by
          have htext := hreads.replacement_eq
          rw [hw] at htext
          exact .of_toText htext
      change Reads _ _ f
      rwa [hpattern, hreplacement]
  | _ => cases hpattern

end Layered

/-! ### Later sources -/

/-- The results for a part of a list are a part of the results. -/
theorem mapM_append_eq_ok {ε α β : Type} {f : α → Except ε β} {l l' : List α} {r : List β}
    (h : (l ++ l').mapM f = .ok r) :
    ∃ before after, l.mapM f = .ok before ∧ r = before ++ after := by
  rw [List.mapM_append] at h
  obtain ⟨before, hbefore, h⟩ := bind_eq_ok_iff.1 h
  obtain ⟨after, -, h⟩ := bind_eq_ok_iff.1 h
  exact ⟨before, after, hbefore, (Except.ok.inj h).symm⟩

namespace Layered

variable {calls more : List Call} {s s' : Sources} {files files' : List Entries}
  {settings settings' : Settings}

/-- More sources come after the ones that are there. -/
theorem sources_append (h : Layered calls s files settings)
    (h' : Layered (calls ++ more) s' files' settings') :
    ∃ files₂ overrides₂, files' = files ++ files₂ ∧ s'.overrides = s.overrides ++ overrides₂ := by
  have hcalls := h.calls_eq
  have hcalls' := h'.calls_eq
  rw [Sources.ofCalls_eq] at hcalls hcalls'
  rw [List.filterMap_append, List.filterMap_append] at hcalls'
  obtain ⟨overrides, hoverrides, rfl⟩ := map_eq_ok_iff.1 hcalls
  obtain ⟨overrides', hoverrides', rfl⟩ := map_eq_ok_iff.1 hcalls'
  obtain ⟨overrides₁, overrides₂, hoverrides₁, rfl⟩ := mapM_append_eq_ok hoverrides'
  obtain ⟨files₁, files₂, hfiles₁, rfl⟩ := mapM_append_eq_ok h'.files_eq
  obtain rfl := Except.ok.inj (hfiles₁.symm.trans h.files_eq)
  obtain rfl := Except.ok.inj (hoverrides₁.symm.trans hoverrides)
  exact ⟨files₂, overrides₂, rfl, rfl⟩

/-- **A later source** never removes a filter. -/
theorem get?_filters_append (h : Layered calls s files settings)
    (h' : Layered (calls ++ more) s' files' settings') {name : String}
    (hname : settings.filters.get? name ≠ none) : settings'.filters.get? name ≠ none := by
  obtain ⟨files₂, overrides₂, rfl, hoverrides⟩ := h.sources_append h'
  rw [h'.get?_filters_ne_none_iff]
  rcases (h.get?_filters_ne_none_iff name).1 hname with ⟨file, hfile, hne⟩ | ⟨o, ho, hprefix⟩
  · exact .inl ⟨file, List.mem_append_left _ hfile, hne⟩
  · refine .inr ⟨o, ?_, hprefix⟩
    rw [hoverrides]
    exact List.mem_append_left _ ho

end Layered

/-! ### The layers of settings -/

/-- **Layered settings.** Let settings be built from sources that are consistent. Then the form of
the output and what is logged come from the last value for their path, else from the last file that
gives them, else from the defaults, and so do the pattern and the replacement of every filter that
is not a list, an empty replacement if there is none. The pattern and the replacement of a filter
that is a list are its first two items. A filter is there if and only if a file gives it or a value
is given to a path at or below it, so sources that are named later never remove one. The settings
stay the same however the files and the values for single paths are interleaved. -/
theorem build_layered {calls : List Call} {s : Sources} {files : List Entries}
    {settings : Settings} (h : Layered calls s files settings) :
    (s.given files ["output", "pretty"]).map Value.toBoolean = some (.ok settings.pretty) ∧
      (s.given files ["output", "mode"]).map Value.toMode = some (.ok settings.mode) ∧
      (s.given files ["logging", "filter"]).map Value.toText = some (.ok settings.logging) ∧
      (∀ name f, settings.filters.get? name = some f → s.FilterFrom files name f) ∧
      (∀ name, settings.filters.get? name ≠ none ↔ s.Concerns files ["filters", name]) ∧
      (∀ more s' files' settings', Layered (calls ++ more) s' files' settings' →
        ∀ name, settings.filters.get? name ≠ none → settings'.filters.get? name ≠ none) ∧
      ∀ calls', calls'.filterMap Call.file? = calls.filterMap Call.file? →
        calls'.filterMap Call.override? = calls.filterMap Call.override? →
          (Sources.ofCalls calls' >>= Sources.build) = .ok settings := by
  refine ⟨h.given_pretty, h.given_mode, h.given_logging, fun _ _ => h.filterFrom,
    h.get?_filters_ne_none_iff, fun _ _ _ _ h' _ => h.get?_filters_append h',
    fun calls' hfiles hoverrides => ?_⟩
  rw [Sources.ofCalls_congr hfiles hoverrides, h.calls_eq]
  exact h.build_eq

/-- Sources that give the parts of a filter apart: its pattern in one file, its replacement in a
later one and again for a path. -/
def splitCalls : List Call :=
  [.setOverride "Output.Pretty" (.text "no"),
    .addFile (some "[filters.digits]\npattern = \"[0-9]\"\n"),
    .setOverride "filters.digits.replacement" (.text "#"),
    .addFile (some "[output]\nmode = \"single\"\n[filters.digits]\nreplacement = \"-\"\n")]

/-- The sources that are named. -/
def splitSources : Sources :=
  ⟨splitCalls.filterMap Call.file?,
    [(⟨"Output", [.key "Pretty"]⟩, .text "no"),
      (⟨"filters", [.key "digits", .key "replacement"]⟩, .text "#")]⟩

/-- What their files read as. -/
def splitFiles : List Entries :=
  [[("filters", .table [("digits", .table [("pattern", .text "[0-9]")])])],
    [("output", .table [("mode", .text "single")]),
      ("filters", .table [("digits", .table [("replacement", .text "-")])])]]

/-- The theorem at these sources. -/
theorem build_layered_split_filter :
    ∃ settings : Settings, Layered splitCalls splitSources splitFiles settings ∧
      settings.pretty = false ∧ settings.mode = .single ∧ settings.logging = "warn" ∧
      settings.filters.get? "digits" = some ⟨"[0-9]", "#"⟩ := by
  have hbuilt : splitSources.build.map (fun settings => settings.logging) = .ok "warn" := by
    decide +kernel
  have hconsistent : consistentTo 4 (changes (splitSources.assignments splitFiles)) = true := by
    decide +kernel
  have hcalls : Sources.ofCalls splitCalls = .ok splitSources := by rfl
  have hfiles : splitSources.files.mapM readFile = .ok splitFiles := by decide +kernel
  have hscalar : ∀ o ∈ splitSources.overrides, ∀ entries, o.2 ≠ .table entries :=
    List.forall_mem_cons.2 ⟨fun _ => Value.noConfusion,
      List.forall_mem_singleton.2 fun _ => Value.noConfusion⟩
  obtain ⟨settings, hbuild, -⟩ := map_eq_ok_iff.1 hbuilt
  have h : Layered splitCalls splitSources splitFiles settings :=
    ⟨hcalls, hfiles, hbuild, hscalar, consistent_of_consistentTo hconsistent⟩
  obtain ⟨hpretty, hmode, hlogging, hfrom, hthere, -⟩ := build_layered h
  have hgivenPretty : splitSources.given splitFiles ["output", "pretty"] = some (.text "no") := by
    decide +kernel
  have hgivenMode : splitSources.given splitFiles ["output", "mode"] = some (.text "single") := by
    decide +kernel
  have hgivenLogging : splitSources.given splitFiles ["logging", "filter"] =
      some (.text "warn") := by rfl
  rw [hgivenPretty] at hpretty
  rw [hgivenMode] at hmode
  rw [hgivenLogging] at hlogging
  refine ⟨settings, h, ?_, ?_, ?_, ?_⟩
  · have htruth : (Value.text "no").toBoolean = .ok false := by rfl
    rw [Option.map_some, htruth] at hpretty
    exact (Except.ok.inj (Option.some.inj hpretty)).symm
  · have hname : (Value.text "single").toMode = .ok .single := by rfl
    rw [Option.map_some, hname] at hmode
    exact (Except.ok.inj (Option.some.inj hmode)).symm
  · exact (Except.ok.inj (Option.some.inj hlogging)).symm
  · have hstanding : standing? (splitSources.assignments splitFiles) ["filters", "digits"] =
        some (.table [("pattern", .text "[0-9]"), ("replacement", .text "#")]) := by decide +kernel
    have hconcerns : splitSources.Concerns splitFiles ["filters", "digits"] :=
      .inr ⟨_, List.mem_cons_of_mem _ List.mem_cons_self, by decide +kernel⟩
    obtain ⟨f, hf⟩ := Option.ne_none_iff_exists'.1 ((hthere "digits").2 hconcerns)
    have hreads := hfrom "digits" f hf
    rw [Sources.FilterFrom, hstanding] at hreads
    obtain ⟨hpattern, hreplacement⟩ := hreads
    have hgivenPattern : splitSources.given splitFiles ["filters", "digits", "pattern"] =
        some (.text "[0-9]") := by decide +kernel
    have hgivenReplacement : splitSources.given splitFiles ["filters", "digits", "replacement"] =
        some (.text "#") := by decide +kernel
    rw [hgivenPattern] at hpattern
    rw [hgivenReplacement] at hreplacement
    obtain ⟨pattern, replacement⟩ := f
    obtain rfl : "[0-9]" = pattern := Except.ok.inj (Option.some.inj hpattern)
    obtain rfl : "#" = replacement := Except.ok.inj hreplacement
    exact hf

/-- Two files that give a filter as a list, the second one without a replacement. -/
def listSources : Sources :=
  ⟨[some "[filters]\nx = [\"a\", \"-\"]\n", some "[filters]\nx = [\"b\"]\n"], []⟩

/-- What they read as. -/
def listFiles : List Entries :=
  [[("filters", .table [("x", .list [.text "a", .text "-"])])],
    [("filters", .table [("x", .list [.text "b"])])]]

/-- A file that gives a filter as a table, and one that gives it as a list. -/
def mixedSources : Sources :=
  ⟨[some "[filters.x]\npattern = \"a\"\nreplacement = \"-\"\n", some "[filters]\nx = [\"b\"]\n"],
    []⟩

/-- What they read as. -/
def mixedFiles : List Entries :=
  [[("filters", .table [("x", .table [("pattern", .text "a"), ("replacement", .text "-")])])],
    [("filters", .table [("x", .list [.text "b"])])]]

/-- A filter that is given as a list. The first of two files makes a filter with a replacement, and
the second one gives none, but it takes that of the first one away; and no source gives the pattern
at a place of its own. So it is where the first file has a table: the last file to give a
replacement is the first one, and still the filter has none. -/
theorem list_replaces_replacement :
    ∃ earlier later mixed : Settings,
      (⟨listSources.files.take 1, []⟩ : Sources).build = .ok earlier ∧
      earlier.filters.get? "x" = some ⟨"a", "-"⟩ ∧
      Layered (listSources.files.map Call.addFile) listSources listFiles later ∧
      later.filters.get? "x" = some ⟨"b", ""⟩ ∧
      listSources.given listFiles ["filters", "x", "pattern"] = none ∧
      mixedSources.files.mapM readFile = .ok mixedFiles ∧ mixedSources.build = .ok mixed ∧
      mixed.filters.get? "x" = some ⟨"b", ""⟩ ∧
      mixedSources.given mixedFiles ["filters", "x", "replacement"] = some (.text "-") := by
  have hearlier : ((⟨listSources.files.take 1, []⟩ : Sources).build).map
      (fun settings => settings.filters.get? "x") = .ok (some ⟨"a", "-"⟩) := by decide +kernel
  have hlater : listSources.build.map (fun settings => settings.filters.get? "x") =
      .ok (some ⟨"b", ""⟩) := by decide +kernel
  have hmixed : mixedSources.build.map (fun settings => settings.filters.get? "x") =
      .ok (some ⟨"b", ""⟩) := by decide +kernel
  have hfiles : listSources.files.mapM readFile = .ok listFiles := by decide +kernel
  have hfiles' : mixedSources.files.mapM readFile = .ok mixedFiles := by decide +kernel
  have hconsistent : consistentTo 4 (changes (listSources.assignments listFiles)) = true := by
    decide +kernel
  have hpattern : listSources.given listFiles ["filters", "x", "pattern"] = none := by
    decide +kernel
  have hreplacement : mixedSources.given mixedFiles ["filters", "x", "replacement"] =
      some (.text "-") := by decide +kernel
  obtain ⟨earlier, hearlier, hfilter⟩ := map_eq_ok_iff.1 hearlier
  obtain ⟨later, hlater, hfilter'⟩ := map_eq_ok_iff.1 hlater
  obtain ⟨mixed, hmixed, hfilter''⟩ := map_eq_ok_iff.1 hmixed
  have hlayered : Layered (listSources.files.map Call.addFile) listSources listFiles later :=
    ⟨rfl, hfiles, hlater, List.forall_mem_nil _, consistent_of_consistentTo hconsistent⟩
  exact ⟨earlier, later, mixed, hearlier, hfilter, hlayered, hfilter', hpattern, hfiles', hmixed,
    hfilter'', hreplacement⟩

end Harvest.Settings
