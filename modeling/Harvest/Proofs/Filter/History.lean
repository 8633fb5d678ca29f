import Mathlib.Data.List.Dedup
import Harvest.Pattern.Rule
import Harvest.Proofs.Filter.Configured

/-!
# Histories of Registrations

Filters come to a pattern one by one or in bundles, and a bundle is itself filled one by one. A
name that is not valid is refused, and whoever registers may go on after that. This module keeps a
ledger beside the registry: the list of all insertions that were not refused, in order, with those
of a bundle at the place where the bundle was registered. However single filters and bundles
follow each other, the registry holds for each name the latest entry of the ledger.

## Main results

* `Registry.Mirrors.offer`, `Registry.Mirrors.insertAll`: what one filter and one bundle more do
  to a registry and its ledger.
* `mirrors_afterAll`: a pattern after a history of registrations.
* `registry_after_history`: what the names of a pattern call, and how many filters it has.
-/

namespace Harvest.Filter

/-- A filter and the name that it is to be registered under. -/
abbrev Insertion := String × (String → String)

namespace Registry

/-! ### Offers -/

/-- A registry after it has been offered a filter. If the name is refused, it is what it was. -/
def offer (r : Registry) (e : Insertion) : Registry :=
  match r.insert e.1 e.2 with
  | .ok r' => r'
  | .error _ => r

/-- A registry that has been filled from nothing, one filter after the other. -/
def ofOffers (es : List Insertion) : Registry :=
  es.foldl offer empty

/-- The insertions that are not refused. -/
def admitted (es : List Insertion) : List Insertion :=
  es.filter fun e => isName e.1

/-- A filter whose name is not valid is refused. -/
theorem insert_eq_error {r : Registry} {name : String} (h : isName name = false)
    (filter : String → String) : r.insert name filter = .error ⟨name⟩ := by
  rw [insert, h]
  rfl

/-- A filter with a valid name is taken over. -/
theorem offer_of_isName {e : Insertion} (h : isName e.1 = true) (r : Registry) :
    r.offer e = ⟨r.filters.insert e.1 e.2⟩ := by
  rw [offer, insert_eq_ok_iff.2 ⟨h, rfl⟩]

/-- A filter whose name is not valid leaves the registry as it is. -/
theorem offer_of_not_isName {e : Insertion} (h : isName e.1 = false) (r : Registry) :
    r.offer e = r := by
  rw [offer, insert_eq_error h]

/-! ### Ledgers -/

/-- A registry holds what a ledger says: each name has the filter of its latest entry, and all
names are valid. -/
structure Mirrors (r : Registry) (ledger : List Insertion) : Prop where
  /-- Under a name stands the filter of the latest entry. -/
  get?_eq : ∀ name, r.filters.get? name = ledger.reverse.lookup name
  /-- The names of the entries are valid. -/
  isName_of_mem : ∀ e ∈ ledger, isName e.1 = true

namespace Mirrors

variable {r other : Registry} {ledger ledger' : List Insertion}

theorem empty : Registry.empty.Mirrors [] :=
  ⟨fun _ => rfl, List.forall_mem_nil _⟩

/-- **One filter more** is entered unless its name is refused. -/
theorem offer (h : r.Mirrors ledger) (e : Insertion) :
    (r.offer e).Mirrors (ledger ++ admitted [e]) := by
  rw [admitted, List.filter_singleton]
  cases hname : isName e.1 with
  | false =>
      rw [offer_of_not_isName hname, cond_false, List.append_nil]
      exact h
  | true =>
      rw [offer_of_isName hname, cond_true]
      constructor
      · intro name
        rw [Dictionary.get?_insert, h.get?_eq, List.reverse_append, List.reverse_singleton,
          List.singleton_append, List.lookup_cons]
        by_cases heq : name = e.1
        · rw [if_pos heq, beq_iff_eq.2 heq]
        · rw [if_neg heq, beq_eq_false_iff_ne.2 heq]
      · exact List.forall_mem_append.2 ⟨h.isName_of_mem, List.forall_mem_singleton.2 hname⟩

/-- A registry mirrors its ledger and, after it, what is admitted of further insertions. -/
theorem foldl_offer (h : r.Mirrors ledger) (es : List Insertion) :
    (es.foldl Registry.offer r).Mirrors (ledger ++ admitted es) := by
  induction es generalizing r ledger with
  | nil =>
      rw [admitted, List.filter_nil, List.append_nil]
      exact h
  | cons e es ih =>
      have hcons : admitted (e :: es) = admitted [e] ++ admitted es :=
        List.filter_append [e] es
      rw [hcons, ← List.append_assoc]
      exact ih (h.offer e)

/-- A registry that has been filled from nothing. -/
theorem ofOffers (es : List Insertion) : (ofOffers es).Mirrors (admitted es) :=
  Mirrors.empty.foldl_offer es

/-- **One bundle more**: its ledger follows that of the registry. -/
theorem insertAll (h : r.Mirrors ledger) (h' : other.Mirrors ledger') :
    (r.insertAll other).Mirrors (ledger ++ ledger') := by
  constructor
  · intro name
    rw [Registry.insertAll, Dictionary.get?_insertAll, h.get?_eq, h'.get?_eq,
      List.reverse_append, List.lookup_append]
  · exact List.forall_mem_append.2 ⟨h.isName_of_mem, h'.isName_of_mem⟩

/-- A name calls the filter of its latest entry, or else the builtin of that name. -/
theorem resolve?_eq (h : r.Mirrors ledger) (name : String) :
    r.resolve? name = (ledger.reverse.lookup name).or (builtin? name) := by
  rw [resolve?, h.get?_eq]
  cases ledger.reverse.lookup name <;> rfl

/-- The registered names are those of the entries. -/
theorem mem_names_iff (h : r.Mirrors ledger) {name : String} :
    name ∈ r.names ↔ name ∈ ledger.map Prod.fst := by
  have hget : r.filters.entries.lookup name = ledger.reverse.lookup name := h.get?_eq name
  rw [names, Dictionary.names, ← Dictionary.lookup_ne_none_iff, hget,
    Dictionary.lookup_ne_none_iff, List.map_reverse, List.mem_reverse]

/-- The number of registered filters is that of the different names of the entries. -/
theorem size_eq (h : r.Mirrors ledger) : r.size = (ledger.map Prod.fst).dedup.length := by
  have hperm : r.names.Perm (ledger.map Prod.fst).dedup :=
    (List.perm_ext_iff_of_nodup r.filters.nodup_names (List.nodup_dedup _)).2 fun name =>
      h.mem_names_iff.trans List.mem_dedup.symm
  have hlength : r.size = r.names.length := (List.length_map Prod.fst).symm
  rw [hlength, hperm.length_eq]

/-- The names in a registry that mirrors a ledger are valid. -/
theorem isName_of_mem_names (h : r.Mirrors ledger) {name : String} (hname : name ∈ r.names) :
    isName name = true := by
  obtain ⟨e, he, rfl⟩ := List.mem_map.1 (h.mem_names_iff.1 hname)
  exact h.isName_of_mem e he

end Mirrors

end Registry

end Harvest.Filter

namespace Harvest.Pattern

open Harvest.Filter (Insertion Registry builtin? isName)
open Harvest.Filter.Registry (admitted)

/-! ### Histories -/

/-- A registration at a pattern. -/
inductive Registration where
  /-- Of one filter. -/
  | single (e : Insertion)
  /-- Of a bundle that has been filled with the given filters. -/
  | bundle (es : List Insertion)
  /-- Of such a bundle, by the form that gives the pattern back. -/
  | consuming (es : List Insertion)

/-- The filters that a registration offers, in order. -/
def Registration.offers : Registration → List Insertion
  | .single e => [e]
  | .bundle es => es
  | .consuming es => es

/-- A pattern after a registration. If a single filter is refused, it is what it was. -/
def after (p : Pattern) : Registration → Pattern
  | .single e =>
      match p.register e.1 e.2 with
      | .ok p' => p'
      | .error _ => p
  | .bundle es => p.registerAll (.ofOffers es)
  | .consuming es => p.withFilters (.ofOffers es)

/-- A pattern after registrations, one after the other. -/
def afterAll (p : Pattern) (history : List Registration) : Pattern :=
  history.foldl after p

/-- All insertions of a history that have succeeded, in order. -/
def succeeded (history : List Registration) : List Insertion :=
  admitted (history.flatMap Registration.offers)

/-- A filter is registered if and only if its name is valid. -/
theorem register_eq_ok_iff {p p' : Pattern} {name : String} {filter : String → String} :
    p.register name filter = .ok p' ↔
      isName name = true ∧ { p with filters := ⟨p.filters.filters.insert name filter⟩ } = p' := by
  rw [register, map_eq_ok_iff]
  constructor
  · rintro ⟨r, hr, rfl⟩
    obtain ⟨hname, rfl⟩ := Registry.insert_eq_ok_iff.1 hr
    exact ⟨hname, rfl⟩
  · rintro ⟨hname, rfl⟩
    exact ⟨_, Registry.insert_eq_ok_iff.2 ⟨hname, rfl⟩, rfl⟩

theorem after_single (p : Pattern) (e : Insertion) :
    p.after (.single e) = { p with filters := p.filters.offer e } := by
  rw [after, register, Registry.offer]
  cases p.filters.insert e.1 e.2 <;> rfl

/-- Rules are not touched by a registration. -/
theorem rules_after (p : Pattern) (registration : Registration) :
    (p.after registration).rules = p.rules := by
  cases registration with
  | single e => rw [after_single]
  | bundle es => rfl
  | consuming es => rfl

/-- No registration changes the rules of a pattern. -/
theorem rules_afterAll (p : Pattern) (history : List Registration) :
    (p.afterAll history).rules = p.rules := by
  induction history generalizing p with
  | nil => rfl
  | cons registration history ih => exact (ih _).trans (p.rules_after registration)

/-- **One registration more**, whatever it is, enters what it offers and is not refused. -/
theorem mirrors_after {p : Pattern} {ledger : List Insertion} (h : p.filters.Mirrors ledger)
    (registration : Registration) :
    (p.after registration).filters.Mirrors (ledger ++ admitted registration.offers) := by
  cases registration with
  | single e =>
      rw [after_single]
      exact h.offer e
  | bundle es => exact h.insertAll (.ofOffers es)
  | consuming es => exact h.insertAll (.ofOffers es)

/-- **A history** enters all that it offers and that is not refused. -/
theorem mirrors_afterAll {p : Pattern} {ledger : List Insertion} (h : p.filters.Mirrors ledger)
    (history : List Registration) :
    (p.afterAll history).filters.Mirrors (ledger ++ succeeded history) := by
  induction history generalizing p ledger with
  | nil =>
      rw [succeeded, List.flatMap_nil, admitted, List.filter_nil, List.append_nil]
      exact h
  | cons registration history ih =>
      have hcons : succeeded (registration :: history) =
          admitted registration.offers ++ succeeded history := by
        rw [succeeded, List.flatMap_cons, admitted, List.filter_append]
        rfl
      rw [hcons, ← List.append_assoc]
      exact ih (mirrors_after h registration)

/-- **The filters of a pattern** after any history of registrations, single ones, bundles, and
bundles by the form that gives the pattern back, each bundle filled by any insertions. A name
calls the filter of the latest insertion under that name that has succeeded, or else the builtin of
that name, or else nothing. There are as many registered filters as different names of successful
insertions. These are the registered names, and all of them are valid. The rules are what they
were. An insertion succeeds if and only if its name is valid; one that is refused, at the pattern
or at a bundle, leaves everything as if it had not been tried. -/
theorem registry_after_history (rules : List Rule) (history : List Registration) :
    (∀ name, (afterAll ⟨rules, .empty⟩ history).filters.resolve? name =
      ((succeeded history).reverse.lookup name).or (builtin? name)) ∧
    (afterAll ⟨rules, .empty⟩ history).filters.size =
      ((succeeded history).map Prod.fst).dedup.length ∧
    (∀ name, name ∈ (afterAll ⟨rules, .empty⟩ history).filters.names ↔
      name ∈ (succeeded history).map Prod.fst) ∧
    (∀ name ∈ (afterAll ⟨rules, .empty⟩ history).filters.names, isName name = true) ∧
    (afterAll ⟨rules, .empty⟩ history).rules = rules ∧
    ∀ e : Insertion,
      ((∃ p', (afterAll ⟨rules, .empty⟩ history).register e.1 e.2 = .ok p') ↔
        isName e.1 = true) ∧
      (isName e.1 = false →
        (afterAll ⟨rules, .empty⟩ history).register e.1 e.2 = .error ⟨e.1⟩ ∧
        (afterAll ⟨rules, .empty⟩ history).after (.single e) =
          afterAll ⟨rules, .empty⟩ history ∧
        ∀ es es' : List Insertion,
          Registry.ofOffers (es ++ e :: es') = Registry.ofOffers (es ++ es')) := by
  have h : (afterAll ⟨rules, .empty⟩ history).filters.Mirrors (succeeded history) :=
    mirrors_afterAll (p := ⟨rules, .empty⟩) .empty history
  generalize hp : afterAll ⟨rules, .empty⟩ history = p at h ⊢
  have hrules : p.rules = rules := hp ▸ rules_afterAll ⟨rules, .empty⟩ history
  refine ⟨h.resolve?_eq, h.size_eq, fun _ => h.mem_names_iff, fun _ => h.isName_of_mem_names,
    hrules, fun e => ⟨?_, fun hname => ⟨?_, ?_, fun es es' => ?_⟩⟩⟩
  · exact ⟨fun ⟨_, hp'⟩ => (register_eq_ok_iff.1 hp').1,
      fun hname => ⟨_, register_eq_ok_iff.2 ⟨hname, rfl⟩⟩⟩
  · rw [register, Registry.insert_eq_error hname]
    rfl
  · rw [after_single, Registry.offer_of_not_isName hname]
  · rw [Registry.ofOffers, Registry.ofOffers, List.foldl_append, List.foldl_append,
      List.foldl_cons, Registry.offer_of_not_isName hname]

end Harvest.Pattern
