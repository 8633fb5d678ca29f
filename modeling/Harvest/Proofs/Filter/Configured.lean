import Harvest.Filter.Configured
import Harvest.Proofs.Dictionary
import Harvest.Proofs.Except

/-!
# The Registry of Configured Filters

Configured filters whose expressions are well-formed and whose names are valid make a registry.
A name calls the filter that is configured under it, and no other name calls a filter. A single
filter that cannot be registered leaves no registry at all, and of several the one with the
smallest name is reported, since filters are registered in the order of their names: each step
finds the registry of all filters with smaller names, or there was an error before it.

## Main results

* `Registry.insert_eq_ok_iff`: when a filter is registered.
* `Registry.insertConfigured_eq_ok_iff`, `Registry.insertConfigured_eq_error_iff`: when a
  configured filter is registered, and why it is refused.
* `Registry.exists_ofConfigured`: the registry of configured filters.
* `Registry.ofConfigured_eq_error_iff`: the filter that is reported.
* `configured_all_or_nothing`: what configured filters make, in either case.
-/

namespace Harvest.Filter

/-- What a configured filter does to a text, if its expression is well-formed. -/
def ReplaceFilter.function? (f : ReplaceFilter) : Option (String → String) :=
  (Regex.compile? f.pattern).map fun regex => regex.replaceAll f.replacement

/-- A configured filter that can be registered under a name. -/
def ReplaceFilter.IsSound (name : String) (f : ReplaceFilter) : Prop :=
  f.function?.isSome = true ∧ isName name = true

theorem ReplaceFilter.isSound_iff {name : String} {f : ReplaceFilter} :
    f.IsSound name ↔ (∃ regex, Regex.compile? f.pattern = some regex) ∧ isName name = true := by
  rw [IsSound, function?, Option.isSome_map, Option.isSome_iff_exists]

/-- Why a configured filter cannot be registered under a name. A malformed expression is the
reason whatever the name, and a name only with a well-formed expression. -/
inductive ReplaceFilter.Offends [Diagnostics] (f : ReplaceFilter) (name : String) :
    ConfiguredFault → Prop
  /-- The expression is malformed. -/
  | pattern (hregex : Regex.compile? f.pattern = none) :
      f.Offends name (.ofExpression name f.pattern)
  /-- The name is not valid. -/
  | name {regex : Regex} (hregex : Regex.compile? f.pattern = some regex)
      (hname : isName name = false) : f.Offends name (.name ⟨name⟩)

namespace Registry

/-- A filter is registered if and only if its name is valid. -/
theorem insert_eq_ok_iff {r r' : Registry} {name : String} {filter : String → String} :
    r.insert name filter = .ok r' ↔ isName name = true ∧ ⟨r.filters.insert name filter⟩ = r' := by
  rw [insert]
  cases isName name <;> simp

/-- A configured filter is registered if and only if it can be. -/
theorem insertConfigured_eq_ok_iff [Diagnostics] {r r' : Registry} {name : String}
    {f : ReplaceFilter} :
    r.insertConfigured name f = .ok r' ↔
      ∃ g, f.function? = some g ∧ isName name = true ∧ ⟨r.filters.insert name g⟩ = r' := by
  rw [insertConfigured, ReplaceFilter.function?]
  cases Regex.compile? f.pattern with
  | none => simp
  | some regex =>
      dsimp only
      rw [insert]
      cases isName name <;> simp

/-- A configured filter is refused for the same reason whatever the registry holds. -/
theorem insertConfigured_eq_error_iff [Diagnostics] {r : Registry} {name : String}
    {f : ReplaceFilter} {fault : ConfiguredFault} :
    r.insertConfigured name f = .error fault ↔ f.Offends name fault := by
  rw [insertConfigured]
  constructor
  · intro h
    cases hregex : Regex.compile? f.pattern with
    | none =>
        rw [hregex] at h
        obtain rfl := Except.error.inj h
        exact .pattern hregex
    | some regex =>
        rw [hregex] at h
        dsimp only at h
        rw [insert] at h
        cases hname : isName name with
        | true =>
            rw [hname] at h
            cases h
        | false =>
            rw [hname] at h
            obtain rfl := Except.error.inj h
            exact .name hregex hname
  · rintro (hregex | ⟨hregex, hname⟩)
    · rw [hregex]
    · rw [hregex]
      dsimp only
      rw [insert, hname]
      rfl

/-! ### One filter after the other -/

section

variable [Diagnostics] {entries : List (String × ReplaceFilter)} {r : Registry}

/-- Configured filters can be registered one after the other if and only if each of them can. -/
theorem exists_foldlM_insertConfigured_iff :
    (∃ r', entries.foldlM (fun r entry => r.insertConfigured entry.1 entry.2) r = .ok r') ↔
      ∀ e ∈ entries, e.2.IsSound e.1 := by
  induction entries generalizing r with
  | nil => exact ⟨fun _ => List.forall_mem_nil _, fun _ => ⟨r, rfl⟩⟩
  | cons entry rest ih =>
      rw [List.forall_mem_cons, List.foldlM_cons]
      simp only [bind_eq_ok_iff, insertConfigured_eq_ok_iff]
      constructor
      · rintro ⟨r', _, ⟨g, hg, hname, -⟩, hr'⟩
        exact ⟨⟨Option.isSome_iff_exists.2 ⟨g, hg⟩, hname⟩, ih.1 ⟨r', hr'⟩⟩
      · rintro ⟨⟨hsome, hname⟩, hsound⟩
        obtain ⟨g, hg⟩ := Option.isSome_iff_exists.1 hsome
        obtain ⟨r', hr'⟩ := ih.2 hsound
        exact ⟨r', _, ⟨g, hg, hname, rfl⟩, hr'⟩

/-- Each name calls what is configured under it then, or what it called before. -/
theorem get?_of_foldlM_insertConfigured (hnodup : (entries.map Prod.fst).Nodup) {r' : Registry}
    (h : entries.foldlM (fun r entry => r.insertConfigured entry.1 entry.2) r = .ok r')
    (name : String) :
    r'.filters.get? name =
      ((entries.lookup name).bind ReplaceFilter.function?).or (r.filters.get? name) := by
  induction entries generalizing r with
  | nil =>
      obtain rfl := Except.ok.inj h
      rfl
  | cons entry rest ih =>
      obtain ⟨n, f⟩ := entry
      obtain ⟨hn, hrest⟩ := List.nodup_cons.1 hnodup
      rw [List.foldlM_cons] at h
      obtain ⟨_, hinsert, h⟩ := bind_eq_ok_iff.1 h
      obtain ⟨g, hg, -, rfl⟩ := insertConfigured_eq_ok_iff.1 hinsert
      rw [ih hrest h, Dictionary.get?_insert, List.lookup_cons]
      -- Names are distinct, so no later filter takes the place of this one.
      by_cases heq : name = n
      · subst heq
        rw [Dictionary.lookup_eq_none_of_notMem hn, if_pos rfl, beq_self_eq_true]
        change some g = f.function?.or _
        rw [hg]
        rfl
      · rw [if_neg heq, beq_eq_false_iff_ne.2 heq]

end

/-! ### All of them -/

section

variable [Diagnostics] {filters : Dictionary ReplaceFilter}

/-- There is a registry if and only if every configured filter can be registered. -/
theorem exists_ofConfigured_iff :
    (∃ r, ofConfigured filters = .ok r) ↔ ∀ e ∈ filters.entries, e.2.IsSound e.1 :=
  exists_foldlM_insertConfigured_iff

theorem get?_of_ofConfigured {r : Registry} (h : ofConfigured filters = .ok r) (name : String) :
    r.filters.get? name = (filters.get? name).bind ReplaceFilter.function? :=
  (get?_of_foldlM_insertConfigured filters.nodup_names h name).trans Option.or_none

/-- **The registry of configured filters.** If every expression is well-formed and every name
valid, there is a registry, in which each name calls what is configured under it. -/
theorem exists_ofConfigured (h : ∀ e ∈ filters.entries, e.2.IsSound e.1) :
    ∃ r, ofConfigured filters = .ok r ∧
      ∀ name, r.filters.get? name = (filters.get? name).bind ReplaceFilter.function? := by
  obtain ⟨r, hr⟩ := exists_ofConfigured_iff.2 h
  exact ⟨r, hr, get?_of_ofConfigured hr⟩

/-- A registry of configured filters has an entry for each of them, and no other entry. -/
theorem names_of_ofConfigured {r : Registry} (h : ofConfigured filters = .ok r) :
    r.names = filters.names := by
  have hsound := exists_ofConfigured_iff.1 ⟨r, h⟩
  refine Dictionary.names_eq_of_mem_iff fun name => ?_
  rw [Dictionary.mem_names_iff, Dictionary.mem_names_iff, get?_of_ofConfigured h]
  cases hget : filters.get? name with
  | none => exact ⟨fun h => absurd rfl h, fun h => absurd rfl h⟩
  | some f =>
      have hfunction := (hsound _ (Dictionary.mem_of_lookup hget)).1
      rw [Option.bind_some]
      exact ⟨fun _ => Option.some_ne_none f, fun _ => Option.isSome_iff_ne_none.1 hfunction⟩

/-- Under the name of a configured filter stands the replacement of its own expression by its own
text. -/
theorem get?_of_mem_entries {r : Registry} (h : ofConfigured filters = .ok r)
    {e : String × ReplaceFilter} (he : e ∈ filters.entries) :
    ∃ regex, Regex.compile? e.2.pattern = some regex ∧
      r.filters.get? e.1 = some (regex.replaceAll e.2.replacement) := by
  have hsound := exists_ofConfigured_iff.1 ⟨r, h⟩ e he
  obtain ⟨⟨regex, hregex⟩, -⟩ := ReplaceFilter.isSound_iff.1 hsound
  refine ⟨regex, hregex, ?_⟩
  rw [get?_of_ofConfigured h, Dictionary.get?_of_mem he, Option.bind_some,
    ReplaceFilter.function?, hregex]
  rfl

/-- **The filter that is reported** has the smallest name of those that cannot be registered. -/
theorem ofConfigured_eq_error_iff {fault : ConfiguredFault} :
    ofConfigured filters = .error fault ↔
      ∃ e ∈ filters.entries, e.2.Offends e.1 fault ∧
        ∀ e' ∈ filters.entries, e'.1 < e.1 → e'.2.IsSound e'.1 := by
  rw [ofConfigured, foldlM_eq_error_iff]
  constructor
  · rintro ⟨before, e, after, r, hsplit, hbefore, herror⟩
    have he : e ∈ filters.entries := by
      rw [hsplit]
      exact List.mem_append_right _ List.mem_cons_self
    have hsound := exists_foldlM_insertConfigured_iff.1 ⟨r, hbefore⟩
    exact ⟨e, he, insertConfigured_eq_error_iff.1 herror, fun e' he' hlt =>
      hsound e' ((Dictionary.mem_before_iff hsplit).2 ⟨he', hlt⟩)⟩
  · rintro ⟨e, he, hoffends, hsmaller⟩
    obtain ⟨before, after, hsplit⟩ := List.append_of_mem he
    have hsound : ∀ e' ∈ before, e'.2.IsSound e'.1 := by
      intro e' he'
      obtain ⟨hmem, hlt⟩ := (Dictionary.mem_before_iff hsplit).1 he'
      exact hsmaller e' hmem hlt
    obtain ⟨r, hr⟩ := exists_foldlM_insertConfigured_iff.2 hsound
    exact ⟨before, e, after, r, hsplit, hr, insertConfigured_eq_error_iff.2 hoffends⟩

end

/-! ### Calling -/

/-- What a name calls in a registry in which a filter has been stored. -/
theorem resolve?_insert (r : Registry) (name : String) (filter : String → String) (m : String) :
    (⟨r.filters.insert name filter⟩ : Registry).resolve? m =
      if m = name then some filter else r.resolve? m := by
  rw [resolve?, resolve?, Dictionary.get?_insert]
  by_cases h : m = name
  · rw [if_pos h, if_pos h]
  · rw [if_neg h, if_neg h]

/-- What a name calls in a registry to which another one has been added. -/
theorem resolve?_insertAll (r other : Registry) (name : String) :
    (r.insertAll other).resolve? name =
      ((other.filters.get? name).or (r.filters.get? name)).or (builtin? name) := by
  rw [resolve?, insertAll, Dictionary.get?_insertAll]
  cases (other.filters.get? name).or (r.filters.get? name) <;> rfl

end Registry

/-- The names of the builtin filters. -/
def builtinNames : List String :=
  ["lower", "upper", "strip", "nocomma", "notags", "tag2space"]

/-- No other name calls a builtin filter. -/
theorem builtin?_eq_none {name : String} (h : name ∉ builtinNames) : builtin? name = none := by
  simp only [builtinNames, List.mem_cons, List.not_mem_nil, or_false, not_or] at h
  obtain ⟨hlower, hupper, hstrip, hnocomma, hnotags, htag2space⟩ := h
  rw [builtin?, if_neg hlower, if_neg hupper, if_neg hstrip, if_neg hnocomma, if_neg hnotags,
    if_neg htag2space]

/-- The names of the builtin filters are in lower case. -/
theorem lower_builtinNames : ∀ name ∈ builtinNames, Text.lower name = name := by
  decide +kernel

/-- **All or nothing.** Configured filters make a registry if and only if the expression of each
is well-formed and the name of each is valid. The registry has one entry for each of them, which
replaces all matches of its own expression by its own text; its name calls that, whether or not it
is the name of a builtin, and all other names call what they call without the registry. Otherwise
there is an error in place of a registry: it is that of the filter with the smallest name among
those that cannot be registered, about the expression if that is malformed, and about the name only
if it is not. -/
theorem configured_all_or_nothing [Diagnostics] (filters : Dictionary ReplaceFilter) :
    ((∃ r, Registry.ofConfigured filters = .ok r) ↔
      ∀ e ∈ filters.entries,
        (∃ regex, Regex.compile? e.2.pattern = some regex) ∧ isName e.1 = true) ∧
    (∀ r, Registry.ofConfigured filters = .ok r →
      r.names = filters.names ∧
      (∀ e ∈ filters.entries, ∃ regex, Regex.compile? e.2.pattern = some regex ∧
        r.filters.get? e.1 = some (regex.replaceAll e.2.replacement) ∧
        r.resolve? e.1 = some (regex.replaceAll e.2.replacement)) ∧
      ∀ name ∉ filters.names, r.resolve? name = builtin? name) ∧
    ∀ fault, Registry.ofConfigured filters = .error fault ↔
      ∃ e ∈ filters.entries, e.2.Offends e.1 fault ∧
        ∀ e' ∈ filters.entries, e'.1 < e.1 →
          (∃ regex, Regex.compile? e'.2.pattern = some regex) ∧ isName e'.1 = true := by
  refine ⟨?_, fun r hr => ⟨Registry.names_of_ofConfigured hr, fun e he => ?_,
    fun name hname => ?_⟩, fun fault => ?_⟩
  · simp only [Registry.exists_ofConfigured_iff, ReplaceFilter.isSound_iff]
  · obtain ⟨regex, hregex, hget⟩ := Registry.get?_of_mem_entries hr he
    refine ⟨regex, hregex, hget, ?_⟩
    rw [Registry.resolve?, hget]
  · have hnone : r.filters.get? name = none := by
      rw [← Registry.names_of_ofConfigured hr] at hname
      exact Dictionary.lookup_eq_none_of_notMem hname
    rw [Registry.resolve?, hnone]
  · simp only [Registry.ofConfigured_eq_error_iff, ReplaceFilter.isSound_iff]

/-- Three filters of which two cannot be registered: one with a name that is not valid, and behind
it one with a malformed expression. And a filter that hides a builtin. -/
theorem configured_all_or_nothing_two_offenders :
    Registry.ofConfigured ⟨[("lower", ⟨"[A-Z]", "<$0>"⟩), ("no commas", ⟨"x", ""⟩),
        ("zap", ⟨"(", ""⟩)], by decide⟩ = .error (.name ⟨"no commas"⟩) ∧
      ∃ r regex, Registry.ofConfigured ⟨[("lower", ⟨"[A-Z]", "<$0>"⟩)], by decide⟩ = .ok r ∧
        r.names = ["lower"] ∧ Regex.compile? "[A-Z]" = some regex ∧
        r.resolve? "lower" = some (regex.replaceAll "<$0>") := by
  have hx : (Regex.compile? "x").isSome = true := by decide +kernel
  have hletter : (Regex.compile? "[A-Z]").isSome = true := by decide +kernel
  have hlower : isName "lower" = true := by decide +kernel
  have hcommas : isName "no commas" = false := by decide +kernel
  obtain ⟨x, hx⟩ := Option.isSome_iff_exists.1 hx
  obtain ⟨letter, hletter⟩ := Option.isSome_iff_exists.1 hletter
  constructor
  · refine ((configured_all_or_nothing _).2.2 _).2 ⟨("no commas", ⟨"x", ""⟩),
      List.mem_cons_of_mem _ List.mem_cons_self, .name hx hcommas, ?_⟩
    refine List.forall_mem_cons.2 ⟨fun _ => ⟨⟨letter, hletter⟩, hlower⟩, ?_⟩
    refine List.forall_mem_cons.2 ⟨fun hlt => ?_, List.forall_mem_singleton.2 fun hlt => ?_⟩
    · exact absurd hlt (by decide)
    · exact absurd hlt (by decide)
  · obtain ⟨r, hr⟩ := (configured_all_or_nothing
      ⟨[("lower", ⟨"[A-Z]", "<$0>"⟩)], by decide⟩).1.2
        (List.forall_mem_singleton.2 ⟨⟨letter, hletter⟩, hlower⟩)
    obtain ⟨hnames, hentries, -⟩ := (configured_all_or_nothing _).2.1 r hr
    obtain ⟨regex, hregex, -, hresolve⟩ := hentries _ List.mem_cons_self
    exact ⟨r, regex, hr, hnames, hregex, hresolve⟩

end Harvest.Filter
