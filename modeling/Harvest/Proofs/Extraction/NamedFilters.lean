import Harvest.Pattern.Compile
import Harvest.Proofs.Extraction.Targets
import Harvest.Proofs.Filter.History

/-!
# The Filters That a Pattern Names

A registry may hold many filters, and some of them may hide builtins, but an extraction only looks
up names that stand in the targets of its pattern. Two runs of one pattern with registries that
agree on these names pass the same values through the same filters, or both stop at the same name
that is not there. So they end alike and leave the same records behind, with whatever else the
registries hold.

## Main results

* `applyFilters_congr`, `bindAll_congr`: values pass through the filters that are named, and
  through no others.
* `accept_congr`, `runRules_congr`: so it is for the values of an element and of a whole run.
* `extraction_congr_named_filters`: an extraction depends on the named filters alone.
-/

namespace Harvest.Extraction

open Html Record
open Pattern.Rule (targetsOfList)

/-! ### Registries that agree -/

/-- Two registries agree on names: each of the names calls a filter in both or in none of them,
and the two filters make the same of every text. -/
def AgreeOn (names : List String) (filters filters' : Filter.Registry) : Prop :=
  ∀ name ∈ names, ∀ text,
    (filters.resolve? name).map (fun filter => filter text) =
      (filters'.resolve? name).map fun filter => filter text

/-- All names of filters in the chains of targets. -/
def filterNames (ts : List Pattern.Target) : List String :=
  ts.flatMap Pattern.Target.filters

variable {filters filters' : Filter.Registry} {τ : RecordType}

theorem AgreeOn.mono {names names' : List String} (h : AgreeOn names filters filters')
    (hsub : ∀ name ∈ names', name ∈ names) : AgreeOn names' filters filters' :=
  fun name hname => h name (hsub name hname)

/-- Filters that make the same of every text are the same. -/
theorem AgreeOn.resolve?_eq {names : List String} (h : AgreeOn names filters filters')
    {name : String} (hname : name ∈ names) : filters.resolve? name = filters'.resolve? name := by
  have hall := h name hname
  cases hfilter : filters.resolve? name with
  | none =>
      rw [hfilter] at hall
      exact (Option.map_eq_none_iff.1 (hall "").symm).symm
  | some filter =>
      rw [hfilter] at hall
      cases hfilter' : filters'.resolve? name with
      | none =>
          rw [hfilter'] at hall
          cases hall ""
      | some filter' =>
          rw [hfilter'] at hall
          exact congrArg some (funext fun text => Option.some.inj (hall text))

/-- Registries that call the same filter by each name agree. -/
theorem AgreeOn.of_resolve?_eq {names : List String}
    (h : ∀ name ∈ names, filters.resolve? name = filters'.resolve? name) :
    AgreeOn names filters filters' := by
  intro name hname text
  rw [h name hname]

/-! ### Two runs -/

/-- What a chain of filters makes of a value depends on the filters of the chain. -/
theorem applyFilters_congr {names : List String} (h : AgreeOn names filters filters')
    (value : String) :
    applyFilters filters names value = applyFilters filters' names value := by
  induction names generalizing value with
  | nil => rfl
  | cons name names ih =>
      have hrest : AgreeOn names filters filters' := h.mono fun _ => List.mem_cons_of_mem name
      rw [applyFilters, applyFilters, h.resolve?_eq List.mem_cons_self]
      cases filters'.resolve? name with
      | none => rfl
      | some filter => exact ih hrest (filter value)

/-- **Storing bindings** depends on the filters of their targets. -/
theorem bindAll_congr {bs : List Binding}
    (h : ∀ b ∈ bs, AgreeOn b.1.filters filters filters') :
    bindAll filters τ bs = bindAll filters' τ bs := by
  induction bs with
  | nil => rfl
  | cons b bs ih =>
      obtain ⟨target, value⟩ := b
      obtain ⟨hb, hbs⟩ := List.forall_mem_cons.1 h
      have hvalue : bindValue filters τ target value = bindValue filters' τ target value := by
        funext record
        rw [bindValue, bindValue, applyFilters_congr hb]
      rw [bindAll, bindAll, hvalue, ih hbs]

/-- The chain of a target is part of the names of the targets. -/
theorem AgreeOn.of_target_mem {ts : List Pattern.Target}
    (h : AgreeOn (filterNames ts) filters filters') {t : Pattern.Target} (ht : t ∈ ts) :
    AgreeOn t.filters filters filters' :=
  h.mono fun _ hname => List.mem_flatMap.2 ⟨t, ht, hname⟩

/-- Taking a rule on an element depends on the filters that the rule and those below it name. -/
theorem populate_congr {r : Pattern.Rule}
    (h : AgreeOn (filterNames (targetsOfList [r])) filters filters') :
    populate filters τ r = populate filters' τ r := by
  funext tree
  have hbindings : bindAll filters τ (bindings r tree) = bindAll filters' τ (bindings r tree) :=
    bindAll_congr fun b hb => h.of_target_mem (target_mem_of_mem_bindings r hb)
  rw [populate_eq, populate_eq, hbindings]

/-- So does taking it into a sink. -/
theorem accept_congr {r : Pattern.Rule}
    (h : AgreeOn (filterNames (targetsOfList [r])) filters filters') (sink : Sink) :
    accept filters τ sink r = accept filters' τ sink r := by
  funext tree
  cases sink with
  | record => rw [accept, accept, populate_congr h]
  | list => rw [accept, accept, populate_congr h]

/-- **Running rules** depends on the filters that the rules name. -/
theorem runRules_congr {rules : List Pattern.Rule}
    (h : AgreeOn (filterNames (targetsOfList rules)) filters filters') (document : Document)
    (sink : Sink) :
    runRules filters τ document sink rules = runRules filters' τ document sink rules := by
  induction rules with
  | nil => rfl
  | cons r rs ih =>
      have htargets : targetsOfList (r :: rs) = targetsOfList [r] ++ targetsOfList rs :=
        Pattern.Rule.targetsOfList_append [r] rs
      rw [htargets, filterNames, List.flatMap_append] at h
      have hfirst : AgreeOn (filterNames (targetsOfList [r])) filters filters' :=
        h.mono fun _ => List.mem_append_left _
      have hrest : AgreeOn (filterNames (targetsOfList rs)) filters filters' :=
        h.mono fun _ => List.mem_append_right _
      rw [runRules, runRules, accept_congr hfirst, ih hrest]

end Harvest.Extraction

namespace Harvest.Pattern

open Extraction Html Record
open Harvest.Filter (Registry)

/-- Two registries that agree on the names in a pattern extract the same with it. -/
theorem find_congr {p : Pattern} {r r' : Registry} (h : AgreeOn (filterNames p.targets) r r')
    (document : Document) (τ : RecordType) (record : τ.Value) (records : List τ.Value) :
    find { p with filters := r } document τ record =
        find { p with filters := r' } document τ record ∧
      findAll { p with filters := r } document τ records =
        findAll { p with filters := r' } document τ records := by
  have hrun : ∀ sink : Sink, runRules r τ document sink p.rules =
      runRules r' τ document sink p.rules := runRules_congr h document
  constructor
  · rw [find, find, hrun]
  · rw [findAll, findAll, hrun]

/-- Filters with other names make no difference to what the names of a pattern call. -/
theorem agreeOn_insertAll {names : List String} {r other : Registry}
    (h : ∀ name ∈ other.names, name ∉ names) : AgreeOn names (r.insertAll other) r := by
  refine .of_resolve?_eq fun name hname => ?_
  have hnone : other.filters.get? name = none :=
    Dictionary.lookup_eq_none_of_notMem fun hmem => h name hmem hname
  rw [Registry.resolve?_insertAll, hnone, Option.none_or, Registry.resolve?]
  cases r.filters.get? name <;> rfl

/-- **Extractions depend on the named filters alone.** Let two registries agree on every name that
stands in a target of a pattern: it calls a filter in both or in none, and the two filters make the
same of every text. Then extractions with the one and with the other end alike and leave the same
record or the same list behind. So a filter, or a whole registry of filters, that is registered
under names that the pattern does not name, be they names of builtins or not, changes nothing. -/
theorem extraction_congr_named_filters (p : Pattern) :
    (∀ r r' : Registry, AgreeOn (filterNames p.targets) r r' →
      ∀ (document : Document) (τ : RecordType) (record : τ.Value) (records : List τ.Value),
        find { p with filters := r } document τ record =
            find { p with filters := r' } document τ record ∧
          findAll { p with filters := r } document τ records =
            findAll { p with filters := r' } document τ records) ∧
    (∀ (name : String) (filter : String → String) (p' : Pattern),
      name ∉ filterNames p.targets → p.register name filter = .ok p' →
      ∀ (document : Document) (τ : RecordType) (record : τ.Value) (records : List τ.Value),
        p'.find document τ record = p.find document τ record ∧
          p'.findAll document τ records = p.findAll document τ records) ∧
    ∀ other : Registry, (∀ name ∈ other.names, name ∉ filterNames p.targets) →
      ∀ (document : Document) (τ : RecordType) (record : τ.Value) (records : List τ.Value),
        (p.registerAll other).find document τ record = p.find document τ record ∧
          (p.registerAll other).findAll document τ records = p.findAll document τ records := by
  refine ⟨fun r r' h => find_congr h, fun name filter p' hname hregister => ?_,
    fun other hother => find_congr (agreeOn_insertAll hother)⟩
  obtain ⟨-, rfl⟩ := register_eq_ok_iff.1 hregister
  have hagree : AgreeOn (filterNames p.targets) ⟨p.filters.filters.insert name filter⟩
      p.filters := by
    refine .of_resolve?_eq fun m hm => ?_
    have hne : m ≠ name := fun heq => hname (heq ▸ hm)
    rw [Registry.resolve?_insert, if_neg hne]
  exact find_congr hagree

/-- The theorem at a pattern that names `lower`: a registry that holds the builtin of that name
agrees with one that holds nothing, and a filter that hides `upper` changes nothing. -/
theorem extraction_congr_lower :
    ∃ p p' : Pattern, compile "p (text A.lower)" = .ok p ∧
      p.register "upper" (fun _ => "") = .ok p' ∧ filterNames p.targets = ["lower"] ∧
      p'.filters.resolve? "upper" = some (fun _ => "") ∧
      ∀ (document : Document) (τ : RecordType) (record : τ.Value) (records : List τ.Value),
        p'.find document τ record = p.find document τ record ∧
        p'.findAll document τ records = p.findAll document τ records ∧
        find { p with filters := ⟨Dictionary.empty.insert "lower" Text.lower⟩ }
          document τ record = find { p with filters := .empty } document τ record := by
  have htargets : (compile "p (text A.lower)").map (fun p => filterNames p.targets) =
      .ok ["lower"] := by decide +kernel
  obtain ⟨p, hp, hnames⟩ := map_eq_ok_iff.1 htargets
  have hregister : p.register "upper" (fun _ => "") =
      .ok { p with filters := ⟨p.filters.filters.insert "upper" fun _ => ""⟩ } :=
    register_eq_ok_iff.2 ⟨by decide +kernel, rfl⟩
  have hagree : AgreeOn (filterNames p.targets) ⟨Dictionary.empty.insert "lower" Text.lower⟩
      .empty := by
    rw [hnames]
    refine .of_resolve?_eq fun name hname => ?_
    obtain rfl := List.mem_singleton.1 hname
    rfl
  obtain ⟨hcongr, hone, -⟩ := extraction_congr_named_filters p
  have hupper : "upper" ∉ filterNames p.targets := by
    rw [hnames]
    decide
  refine ⟨p, _, hp, hregister, hnames, ?_, fun document τ record records => ?_⟩
  · rw [Registry.resolve?_insert, if_pos rfl]
  · obtain ⟨hfind, hfindAll⟩ := hone "upper" _ _ hupper hregister document τ record records
    exact ⟨hfind, hfindAll, (hcongr _ _ hagree document τ record records).1⟩

end Harvest.Pattern
