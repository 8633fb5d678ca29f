import Harvest.Proofs.Extraction.Gate
import Harvest.Proofs.Filter.Configured
import Harvest.Proofs.Pattern.Language
import Harvest.Proofs.Settings.Laying

/-!
# From a Declaration to a Filter

A filter is declared by a table of a configuration file and called by a name in a pattern. On
its way through the settings, the name becomes the key of a table and is lower-cased there; the
name in the pattern is not. So a declared filter is found under the lower-case form of its name,
and a pattern finds it under the name itself if and only if that is in lower case.

## Main results

* `lookup_filters_of_declaration`: the table of a declaration reaches the settings.
* `get?_filters`: the filters of the settings.
* `declared_filter_resolves`: the filter that a name calls after its declaration.
-/

namespace Harvest.Settings

open Harvest.Filter (Registry ReplaceFilter)

/-! ### The place of a filter -/

/-- The tables of filters in a value, each under the name of its filter. -/
def Value.filters (v : Value) : Entries :=
  ((v.entries.lookup "filters").getD .absent).entries

/-- An assignment that leaves the filter of a name alone: it goes to another place, or it gives
tables under other names. -/
def LeavesFilter (name : String) (a : Assignment) : Prop :=
  Text.lower a.1.first = "filters" →
    match a.1.rest with
    | [] => ∃ entries, a.2 = .table entries ∧ ∀ e ∈ entries, Text.lower e.1 ≠ name
    | .key k :: _ => Text.lower k ≠ name
    | .index _ :: _ => False

/-- The filters after an assignment to their table. -/
theorem filters_assign {a : Assignment} (h : Text.lower a.1.first = "filters") (base : Value) :
    (base.assign a.1 a.2).filters =
      (a.2.assignSteps a.1.rest ((base.entries.lookup "filters").getD .absent)).entries := by
  rw [Value.filters, lookup_assign, if_pos h.symm]
  rfl

theorem filters_assign_of_ne {a : Assignment} (h : Text.lower a.1.first ≠ "filters")
    (base : Value) : (base.assign a.1 a.2).filters = base.filters := by
  rw [Value.filters, lookup_assign, if_neg (Ne.symm h)]
  rfl

/-- **An assignment that leaves a filter alone** does so. -/
theorem lookup_filters_of_leavesFilter {name : String} {a : Assignment}
    (h : LeavesFilter name a) (base : Value) :
    (base.assign a.1 a.2).filters.lookup name = base.filters.lookup name := by
  by_cases hfirst : Text.lower a.1.first = "filters"
  · have hrest := h hfirst
    rw [filters_assign hfirst]
    obtain ⟨⟨first, rest⟩, v⟩ := a
    cases rest with
    | nil =>
        obtain ⟨entries, rfl, hne⟩ := hrest
        change ((Value.table entries).layOver _).entries.lookup name = _
        rw [Value.entries_layOver_table, lookup_layEntries_of_ne hne]
        rfl
    | cons step rest =>
        cases step with
        | key k =>
            change (changeEntry (Text.lower k) _ _).lookup name = _
            rw [lookup_changeEntry, if_neg (Ne.symm hrest)]
            rfl
        | index i => exact hrest.elim
  · rw [filters_assign_of_ne hfirst]

theorem lookup_filters_assignAll {name : String} {as : List Assignment}
    (h : ∀ a ∈ as, LeavesFilter name a) (base : Value) :
    (base.assignAll as).filters.lookup name = base.filters.lookup name := by
  induction as generalizing base with
  | nil => rfl
  | cons a as ih =>
      obtain ⟨ha, has⟩ := List.forall_mem_cons.1 h
      exact (ih has _).trans (lookup_filters_of_leavesFilter ha base)

/-- Whatever is assigned, the names of the filters stay distinct and in lower case. -/
theorem tidy_filters_assignAll (as : List Assignment) (base : Value)
    (h : ((base.entries.lookup "filters").getD .absent).Tidy) :
    (((base.assignAll as).entries.lookup "filters").getD .absent).Tidy := by
  induction as generalizing base with
  | nil => exact h
  | cons a as ih =>
      refine ih (base.assign a.1 a.2) ?_
      rw [lookup_assign]
      split
      · exact h.assignSteps a.2 a.1.rest
      · exact h

/-! ### Declarations -/

/-- The last place among assignments that concerns a filter, a table with the entries `d` under
the name of the filter, in the table of filters of a configuration file. -/
structure Declaration (as : List Assignment) (name : String) (d : Entries) where
  /-- The assignments before the file's table of filters. -/
  before : List Assignment
  /-- The tables in it before the one of the filter. -/
  siblings : Entries
  /-- The tables in it after that. -/
  siblings' : Entries
  /-- The assignments after the table of filters. -/
  after : List Assignment
  /-- The assignments are made up of them. -/
  eq : as = before ++
    (⟨"filters", []⟩, .table (siblings ++ (name, .table d) :: siblings')) :: after
  /-- The tables after the one of the filter have other names. -/
  siblings_ne : ∀ e ∈ siblings', Text.lower e.1 ≠ Text.lower name
  /-- The assignments after the table of filters do not concern the filter. -/
  leaves : ∀ a ∈ after, LeavesFilter (Text.lower name) a

/-- A declaration that is the only one of its filter. -/
def Declaration.IsNew {as : List Assignment} {name : String} {d : Entries}
    (D : Declaration as name d) : Prop :=
  (∀ a ∈ D.before, LeavesFilter (Text.lower name) a) ∧
    ∀ e ∈ D.siblings, Text.lower e.1 ≠ Text.lower name

theorem lower_filters : Text.lower "filters" = "filters" := by
  decide +kernel

/-- A table of filters is laid over the filters. -/
theorem filters_assign_table (entries : Entries) (base : Value) :
    (base.assign ⟨"filters", []⟩ (.table entries)).filters = layEntries entries base.filters := by
  rw [filters_assign (a := (⟨"filters", []⟩, _)) lower_filters]
  exact Value.entries_layOver_table entries _

/-- **The table of a declaration** reaches the filters, laid over what was there before. -/
theorem lookup_filters_of_declaration {as : List Assignment} {name : String} {d : Entries}
    (D : Declaration as name d) :
    ∃ old, ((Value.table []).assignAll as).filters.lookup (Text.lower name) =
      some ((Value.table d).layOver old) ∧ (D.IsNew → old = .absent) := by
  obtain ⟨before, siblings, siblings', after, rfl, hsiblings, hleaves⟩ := D
  generalize hbase : (Value.table []).assignAll before = base
  refine ⟨((layEntries siblings base.filters).lookup (Text.lower name)).getD .absent, ?_, ?_⟩
  · rw [Value.assignAll_append, hbase]
    refine (lookup_filters_assignAll hleaves _).trans ?_
    rw [filters_assign_table, lookup_layEntries hsiblings]
  · rintro ⟨hbefore, hne⟩
    rw [lookup_layEntries_of_ne hne, ← hbase, lookup_filters_assignAll hbefore]
    rfl

/-! ### Reading filters -/

theorem Gives.ne_nil {entries : Entries} {key : String} {v : Value} (h : Gives entries key v) :
    entries ≠ [] := by
  obtain ⟨before, k, after, rfl, -⟩ := h
  exact List.append_ne_nil_of_right_ne_nil _ (List.cons_ne_nil _ _)

/-- A value that can be taken as a text is what is found after it has been laid. -/
theorem Gives.lookup_layEntries {entries : Entries} {key : String} {v : Value}
    (h : Gives entries key v) {text : String} (htext : v.toText = .ok text) (base : Entries) :
    (layEntries entries base).lookup key = some v := by
  obtain ⟨before, k, after, rfl, rfl, hafter⟩ := h
  have hv : ∀ entries, v ≠ .table entries := by
    rintro entries rfl
    cases htext
  rw [Settings.lookup_layEntries hafter, Value.layOver_of_ne_table hv]

/-- A table that is taken as a configured filter: its pattern and its replacement. -/
theorem toReplaceFilter_table_eq (entries : Entries) :
    (Value.table entries).toReplaceFilter =
      (match entries.lookup "replacement" with
        | some w => w.toText
        | none => .ok "") >>= fun replacement =>
      (match entries.lookup "pattern" with
        | some v => v.toText
        | none => .error .wrongShape).map fun pattern => ⟨pattern, replacement⟩ := by
  rw [Value.toReplaceFilter, Value.member, Value.member?, Value.member?]
  cases entries.lookup "replacement" with
  | none =>
      cases entries.lookup "pattern" with
      | none => rfl
      | some v => rfl
  | some w =>
      cases entries.lookup "pattern" with
      | none => rfl
      | some v => rfl

/-- What a table that is taken as a configured filter holds. -/
theorem lookup_of_toReplaceFilter {entries : Entries} {f : ReplaceFilter}
    (h : (Value.table entries).toReplaceFilter = .ok f) :
    (match entries.lookup "replacement" with
      | some w => w.toText
      | none => .ok "") = .ok f.replacement ∧
    ∃ v, entries.lookup "pattern" = some v ∧ v.toText = .ok f.pattern := by
  rw [toReplaceFilter_table_eq] at h
  obtain ⟨replacement, hreplacement, h⟩ := bind_eq_ok_iff.1 h
  obtain ⟨pattern, hpattern, rfl⟩ := map_eq_ok_iff.1 h
  refine ⟨hreplacement, ?_⟩
  cases hlookup : entries.lookup "pattern" with
  | none =>
      rw [hlookup] at hpattern
      cases hpattern
  | some v =>
      rw [hlookup] at hpattern
      exact ⟨v, rfl, hpattern⟩

/-- Tables that are taken as configured filters one after the other. -/
theorem lookup_of_mapM {entries : Entries} {filters : List (String × ReplaceFilter)}
    (h : entries.mapM (fun e => e.2.toReplaceFilter.map fun f => (e.1, f)) = .ok filters) :
    filters.map Prod.fst = entries.map Prod.fst ∧ ∀ name,
      (filters.lookup name).map .ok = (entries.lookup name).map Value.toReplaceFilter := by
  induction entries generalizing filters with
  | nil =>
      obtain rfl := Except.ok.inj h
      exact ⟨rfl, fun _ => rfl⟩
  | cons entry rest ih =>
      obtain ⟨key, v⟩ := entry
      rw [List.mapM_cons] at h
      obtain ⟨e, he, h⟩ := bind_eq_ok_iff.1 h
      obtain ⟨filters', hrest, h⟩ := bind_eq_ok_iff.1 h
      obtain rfl := Except.ok.inj h
      obtain ⟨f, hf, rfl⟩ := map_eq_ok_iff.1 he
      obtain ⟨hkeys, hlookup⟩ := ih hrest
      refine ⟨by rw [List.map_cons, List.map_cons, hkeys], fun name => ?_⟩
      rw [List.lookup_cons, List.lookup_cons]
      cases name == key with
      | true => exact congrArg some hf.symm
      | false => exact hlookup name

/-- Configured filters have the names of their tables, if these are distinct. -/
theorem lookup_of_toFilters {entries : Entries} {filters : Dictionary ReplaceFilter}
    (h : (Value.table entries).toFilters = .ok filters)
    (hnodup : (entries.map Prod.fst).Nodup) (name : String) :
    (filters.get? name).map .ok = (entries.lookup name).map Value.toReplaceFilter := by
  rw [Value.toFilters] at h
  obtain ⟨read, hread, h⟩ := bind_eq_ok_iff.1 h
  obtain rfl := Except.ok.inj h
  have hmap : entries.mapM (fun e => e.2.toReplaceFilter.map fun f => (e.1, f)) = .ok read := by
    rw [← hread]
    refine congrArg (fun g => entries.mapM g) (funext fun e => ?_)
    obtain ⟨key, v⟩ := e
    change v.toReplaceFilter.map _ = v.toReplaceFilter >>= _
    cases v.toReplaceFilter <;> rfl
  obtain ⟨hkeys, hlookup⟩ := lookup_of_mapM hmap
  rw [Dictionary.get?_ofList (by rwa [hkeys]), hlookup]

/-- The filters of the settings are read from the table of filters, if there is one. -/
theorem filters_of_ofValue {entries : Entries} {settings : Settings}
    (h : ofValue (.table entries) = .ok settings) :
    (match entries.lookup "filters" with
      | some w => w.toFilters
      | none => .ok .empty) = .ok settings.filters := by
  rw [ofValue] at h
  obtain ⟨output, -, h⟩ := bind_eq_ok_iff.1 h
  obtain ⟨prettyValue, -, h⟩ := bind_eq_ok_iff.1 h
  obtain ⟨pretty, -, h⟩ := bind_eq_ok_iff.1 h
  obtain ⟨modeValue, -, h⟩ := bind_eq_ok_iff.1 h
  obtain ⟨mode, -, h⟩ := bind_eq_ok_iff.1 h
  obtain ⟨logging, -, h⟩ := bind_eq_ok_iff.1 h
  obtain ⟨filterValue, -, h⟩ := bind_eq_ok_iff.1 h
  obtain ⟨filter, -, h⟩ := bind_eq_ok_iff.1 h
  obtain ⟨filtersValue, hmember, h⟩ := bind_eq_ok_iff.1 h
  obtain rfl := Except.ok.inj hmember
  cases hlookup : entries.lookup "filters" with
  | none =>
      rw [hlookup] at h
      obtain rfl := Except.ok.inj h
      rfl
  | some w =>
      rw [hlookup] at h
      obtain ⟨filters, hfilters, h⟩ := bind_eq_ok_iff.1 h
      obtain rfl := Except.ok.inj h
      exact hfilters

/-- **The filters of the settings** are what the tables of filters are taken as. -/
theorem get?_filters {entries : Entries} {settings : Settings}
    (h : ofValue (.table entries) = .ok settings)
    (htidy : ((entries.lookup "filters").getD .absent).Tidy) (name : String) :
    (settings.filters.get? name).map .ok =
      (((entries.lookup "filters").getD .absent).entries.lookup name).map
        Value.toReplaceFilter := by
  have hfilters := filters_of_ofValue h
  cases hlookup : entries.lookup "filters" with
  | none =>
      rw [hlookup] at hfilters
      rw [← Except.ok.inj hfilters]
      rfl
  | some w =>
      rw [hlookup] at hfilters htidy
      cases w with
      | table tables => exact lookup_of_toFilters hfilters htidy.nodup name
      | _ => cases hfilters

/-! ### From a declaration to a call -/

/-- Assignments to a table leave a table. -/
theorem exists_table_assignAll (as : List Assignment) (entries : Entries) :
    ∃ entries', (Value.table entries).assignAll as = .table entries' := by
  induction as generalizing entries with
  | nil => exact ⟨entries, rfl⟩
  | cons a as ih => exact ih _

section

variable {s : Sources} {files : List Entries} {settings : Settings}
  (hfiles : s.files.mapM readFile = .ok files) (hbuild : s.build = .ok settings)

include hfiles hbuild

/-- The filters of the settings that sources make. -/
theorem get?_filters_of_build (name : String) :
    (settings.filters.get? name).map .ok =
      (((Value.table []).assignAll (s.assignments files)).filters.lookup name).map
        Value.toReplaceFilter := by
  obtain ⟨entries, htable⟩ := exists_table_assignAll (s.assignments files) []
  rw [Sources.build, Sources.merged_eq hfiles, htable] at hbuild
  have htidy := tidy_filters_assignAll (s.assignments files) (.table [])
    (.of_entries_eq_nil rfl)
  rw [htable] at htidy ⊢
  exact get?_filters hbuild htidy name

/-- The names of the filters of the settings are in lower case. -/
theorem get?_filters_eq_none {name : String} (hname : Text.lower name ≠ name) :
    settings.filters.get? name = none := by
  have hget := get?_filters_of_build hfiles hbuild name
  have htidy := tidy_filters_assignAll (s.assignments files) (.table [])
    (.of_entries_eq_nil rfl)
  have hnone : ((Value.table []).assignAll (s.assignments files)).filters.lookup name = none :=
    Dictionary.lookup_eq_none_of_notMem fun hmem => hname (htidy.lower_eq name hmem)
  rw [hnone] at hget
  exact Option.map_eq_none_iff.1 hget

/-- **A declared filter** is among the settings, under the lower-case form of its name, with the
pattern and the replacement that its table gives. -/
theorem exists_filter_of_declaration {name : String} {d : Entries}
    (D : Declaration (s.assignments files) name d) {v : Value} {pattern : String}
    (hpattern : Gives d "pattern" v) (htext : v.toText = .ok pattern) :
    ∃ replacement, settings.filters.get? (Text.lower name) = some ⟨pattern, replacement⟩ ∧
      (∀ w text, Gives d "replacement" w → w.toText = .ok text → replacement = text) ∧
      (D.IsNew → (∀ e ∈ d, Text.lower e.1 ≠ "replacement") → replacement = "") := by
  obtain ⟨old, hlookup, hnew⟩ := lookup_filters_of_declaration D
  have hget := get?_filters_of_build hfiles hbuild (Text.lower name)
  rw [hlookup, Value.layOver_table_of_ne_nil hpattern.ne_nil] at hget
  obtain ⟨f, hf, hread⟩ := Option.map_eq_some_iff.1 hget
  obtain ⟨hreplacement, w, hw, hpattern'⟩ := lookup_of_toReplaceFilter hread.symm
  rw [hpattern.lookup_layEntries htext] at hw
  obtain rfl := Option.some.inj hw
  rw [htext] at hpattern'
  obtain ⟨pattern', replacement⟩ := f
  obtain rfl : pattern = pattern' := Except.ok.inj hpattern'
  refine ⟨replacement, hf, fun w text hw htext' => ?_, fun hisNew hne => ?_⟩
  · rw [hw.lookup_layEntries htext'] at hreplacement
    exact Except.ok.inj (hreplacement.symm.trans htext')
  · rw [lookup_layEntries_of_ne hne, hnew hisNew] at hreplacement
    exact (Except.ok.inj hreplacement).symm

/-- **Declared filters.** Let sources make settings whose expressions are well-formed and whose
filters have valid names, and let a filter be declared last by a table with a pattern. Then
there is a registry of the configured filters. In it, the lower-case form of the declared name
calls the replacement of the pattern by what the table gives, or by nothing if it gives none and
the filter has not been declared before. The name itself calls that filter if and only if it is
in lower case: then no extraction by a pattern with the configured filters reports it as unknown.
Otherwise it calls nothing, in the registry and in every pattern that has been compiled. -/
theorem declared_filter_resolves [Diagnostics] {name : String} {d : Entries}
    (D : Declaration (s.assignments files) name d) {v : Value} {pattern : String}
    (hpattern : Gives d "pattern" v) (htext : v.toText = .ok pattern)
    (hsound : ∀ e ∈ settings.filters.entries, e.2.IsSound e.1) :
    ∃ (regex : Regex) (replacement : String) (r : Registry),
      Regex.compile? pattern = some regex ∧ Registry.ofConfigured settings.filters = .ok r ∧
      (∀ w text, Gives d "replacement" w → w.toText = .ok text → replacement = text) ∧
      (D.IsNew → (∀ e ∈ d, Text.lower e.1 ≠ "replacement") → replacement = "") ∧
      r.resolve? (Text.lower name) = some (regex.replaceAll replacement) ∧
      (Text.lower name = name → ∀ (p : Pattern) (document : Html.Document)
        (τ : Record.RecordType) (record : τ.Value) (records : List τ.Value),
        ((p.registerAll r).find document τ record).1 ≠ .error (.unknownFilter name) ∧
        ((p.registerAll r).findAll document τ records).1 ≠ .error (.unknownFilter name)) ∧
      (Text.lower name ≠ name → r.resolve? name = none ∧
        ∀ (source : String) (p : Pattern), Pattern.compile source = .ok p →
          (p.registerAll r).filters.resolve? name = none) := by
  obtain ⟨replacement, hget, hgives, hnew⟩ :=
    exists_filter_of_declaration hfiles hbuild D hpattern htext
  obtain ⟨r, hr, hresolve⟩ := Registry.exists_ofConfigured hsound
  have hmem := Dictionary.mem_of_lookup hget
  obtain ⟨hfunction, -⟩ := hsound _ hmem
  obtain ⟨regex, hregex⟩ : ∃ regex, Regex.compile? pattern = some regex := by
    rw [ReplaceFilter.function?, Option.isSome_map] at hfunction
    exact Option.isSome_iff_exists.1 hfunction
  have hfound : r.filters.get? (Text.lower name) = some (regex.replaceAll replacement) := by
    rw [hresolve, hget, Option.bind_some, ReplaceFilter.function?, hregex]
    rfl
  refine ⟨regex, replacement, r, hregex, hr, hgives, hnew, ?_, fun hlower p document τ record
    records => ?_, fun hlower => ?_⟩
  · rw [Registry.resolve?, hfound]
  · rw [hlower] at hfound
    have hresolved : (p.registerAll r).filters.resolve? name ≠ none := by
      rw [Pattern.registerAll, Registry.resolve?_insertAll, hfound]
      exact Option.some_ne_none _
    exact Pattern.fst_ne_unknownFilter hresolved document τ record records
  · have hbuiltin : Filter.builtin? name = none := Filter.builtin?_eq_none fun hmem =>
      hlower (Filter.lower_builtinNames name hmem)
    have hnone : r.filters.get? name = none := by
      rw [hresolve, get?_filters_eq_none hfiles hbuild hlower]
      rfl
    refine ⟨?_, fun source p hp => ?_⟩
    · rw [Registry.resolve?, hnone, hbuiltin]
    · obtain ⟨_, -, _, -, rfl⟩ := Pattern.compile_eq_ok_iff.1 hp
      rw [Pattern.registerAll, Registry.resolve?_insertAll, hnone, hbuiltin]
      rfl

end

/-- The theorem at a file that declares a filter for everything but digits, without a
replacement. -/
theorem declared_filter_resolves_digits :
    ∃ (settings : Settings) (regex : Regex) (r : Registry),
      (⟨[some "[filters.digits]\npattern = \"[^0-9]\"\n"], []⟩ : Sources).build = .ok settings ∧
      Regex.compile? "[^0-9]" = some regex ∧ Registry.ofConfigured settings.filters = .ok r ∧
      r.resolve? "digits" = some (regex.replaceAll "") ∧
      ∀ (p : Pattern) (document : Html.Document) (records : List (Dictionary String)),
        ((p.registerAll r).findAll document .dynamic records).1 ≠
          .error (.unknownFilter "digits") := by
  have hbuilt : ((⟨[some "[filters.digits]\npattern = \"[^0-9]\"\n"], []⟩ : Sources).build).map
      (fun settings => settings.filters.entries) = .ok [("digits", ⟨"[^0-9]", ""⟩)] := by
    decide +kernel
  have hread : ([some "[filters.digits]\npattern = \"[^0-9]\"\n"] : List (Option String)).mapM
      readFile =
        .ok [[("filters", .table [("digits", .table [("pattern", .text "[^0-9]")])])]] := by
    decide +kernel
  have hkey : Path.ofKey "filters" = ⟨"filters", []⟩ := by decide +kernel
  have hlower : Text.lower "digits" = "digits" := by decide +kernel
  have hleaves : ∀ a ∈ assignments defaults, LeavesFilter (Text.lower "digits") a := by
    intro a ha hfirst
    have hnames : ∀ a ∈ assignments defaults, Text.lower a.1.first ≠ "filters" := by
      decide +kernel
    exact absurd hfirst (hnames a ha)
  let D : Declaration (Sources.assignments ⟨[some "[filters.digits]\npattern = \"[^0-9]\"\n"], []⟩
      [[("filters", .table [("digits", .table [("pattern", .text "[^0-9]")])])]])
      "digits" [("pattern", .text "[^0-9]")] :=
    { before := assignments defaults
      siblings := []
      siblings' := []
      after := []
      eq := by
        rw [Sources.assignments, List.flatMap_cons, List.flatMap_singleton, assignments]
        simp [assignments, hkey]
      siblings_ne := List.forall_mem_nil _
      leaves := List.forall_mem_nil _ }
  have hpattern : Gives [("pattern", .text "[^0-9]")] "pattern" (.text "[^0-9]") :=
    ⟨[], "pattern", [], rfl, by decide +kernel, List.forall_mem_nil _⟩
  obtain ⟨settings, hbuild, hentries⟩ := map_eq_ok_iff.1 hbuilt
  have hsound : ∀ e ∈ settings.filters.entries, e.2.IsSound e.1 := by
    rw [hentries]
    refine List.forall_mem_singleton.2 ⟨?_, ?_⟩
    · decide +kernel
    · decide +kernel
  obtain ⟨regex, replacement, r, hregex, hr, -, hnew, hresolve, hcalls, -⟩ :=
    declared_filter_resolves hread hbuild D hpattern rfl hsound
  obtain rfl : replacement = "" := hnew ⟨hleaves, List.forall_mem_nil _⟩ (by decide +kernel)
  rw [hlower] at hresolve
  exact ⟨settings, regex, r, hbuild, hregex, hr, hresolve,
    fun p document records => (hcalls hlower p document .dynamic .empty records).2⟩

/-- A filter that is declared under a name with a capital letter: the configuration holds it, a
pattern calls it by that name, and the extraction reports the name as unknown. -/
theorem capital_name_unknown :
    ∃ (settings : Settings) (r : Registry) (p : Pattern),
      (⟨[some "[filters.Digits]\npattern = \"[^0-9]\"\n"], []⟩ : Sources).build = .ok settings ∧
      Registry.ofConfigured settings.filters = .ok r ∧ Filter.isName "Digits" = true ∧
      Pattern.compile "p (text X.Digits)" = .ok p ∧ r.resolve? "Digits" = none ∧
      ((p.registerAll r).findAll (Html.Document.parse "<p>a1b2</p>") .dynamic []).1 =
        .error (.unknownFilter "Digits") := by
  have heval :
      ((⟨[some "[filters.Digits]\npattern = \"[^0-9]\"\n"], []⟩ : Sources).build).map
        (fun settings => (Registry.ofConfigured settings.filters).map fun r =>
          ((r.resolve? "Digits").isNone, (Pattern.compile "p (text X.Digits)").map fun p =>
            ((p.registerAll r).findAll (Html.Document.parse "<p>a1b2</p>") .dynamic []).1)) =
      .ok (.ok (true, .ok (.error (.unknownFilter "Digits")))) := by decide +kernel
  obtain ⟨settings, hbuild, heval⟩ := map_eq_ok_iff.1 heval
  obtain ⟨r, hr, heval⟩ := map_eq_ok_iff.1 heval
  obtain ⟨hnone, heval⟩ := Prod.mk.inj heval
  obtain ⟨p, hp, hfind⟩ := map_eq_ok_iff.1 heval
  have hname : Filter.isName "Digits" = true := by decide +kernel
  exact ⟨settings, r, p, hbuild, hr, hname, hp, Option.isNone_iff_eq_none.1 hnone, hfind⟩

end Harvest.Settings
