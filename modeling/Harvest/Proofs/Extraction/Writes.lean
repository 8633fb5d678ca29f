import Mathlib.Data.List.Basic
import Harvest.Pattern.Compile
import Harvest.Proofs.Extraction.Fault

/-!
# What an Extraction Writes

An extraction into a record stores texts under names, one after the other. Which texts these are
does not depend on the record: neither the bindings do, nor the filters, nor the place where a
failure ends everything. So an extraction leaves what storing its *writes* leaves, also when it
fails, and also as far as elements have written to the record that were rejected later. Taking
the same document again stores the same texts again, which shows only in fields that are lists.

## Main results

* `snd_bindAll`, `snd_find`: what bindings and what an extraction leave in a record.
* `find_again`: what comes of extracting twice.
-/

namespace Harvest.Extraction

open Html Record

variable (filters : Filter.Registry) (τ : RecordType)

/-- The texts that bindings store, each with the name that it is stored under, up to the first
fault. -/
def written : List Binding → List (String × String)
  | [] => []
  | (target, raw) :: bs =>
      match applyFilters filters target.filters raw with
      | .error _ => []
      | .ok value =>
          match τ.assign τ.default target.field value with
          | .error _ => []
          | .ok _ => (target.field, value) :: written bs

/-- **Storing bindings** leaves in any record what storing their texts leaves. -/
theorem snd_bindAll (bs : List Binding) (record : τ.Value) :
    (bindAll filters τ bs record).2 = τ.storeAll (written filters τ bs) record := by
  induction bs generalizing record with
  | nil => rfl
  | cons b bs ih =>
      obtain ⟨target, raw⟩ := b
      rw [bindAll, bind_apply, bindValue, written]
      cases applyFilters filters target.filters raw with
      | error e => rfl
      | ok value =>
          rcases τ.assign_cases target.field value with ⟨e, herror⟩ | ⟨step, -, hok⟩
          · simp only [herror]
            rfl
          · have hstore : τ.store record (target.field, value) = step record := by
              rw [RecordType.store, hok]
            simp only [hok]
            rw [ih, RecordType.storeAll, RecordType.storeAll, List.foldl_cons, hstore]

/-- Running rules leaves the record that storing their bindings leaves. -/
theorem snd_runRules_record (document : Document) (rules : List Pattern.Rule)
    (record : τ.Value) :
    (runRules filters τ document .record rules record).2 =
      (bindAll filters τ (bindingsOfAll rules [document.root]) record).2 := by
  rw [runRules_record_eq, bind_apply]
  rcases bindAll filters τ (bindingsOfAll rules [document.root]) record with ⟨_ | _, record'⟩
  · rfl
  · cases unmatched? rules [document.root] <;> rfl

end Harvest.Extraction

namespace Harvest.Pattern

open Extraction Html Record

/-- The texts that an extraction stores, each with the name that it is stored under. There are
none if the fields do not pass the check. -/
def writes (p : Pattern) (document : Document) (τ : RecordType) : List (String × String) :=
  match checkFields τ p.rules with
  | .error _ => []
  | .ok () => written p.filters τ (bindingsOfAll p.rules [document.root])

/-- **An extraction** leaves in any record what storing its writes leaves. -/
theorem snd_find (p : Pattern) (document : Document) (τ : RecordType) (record : τ.Value) :
    (p.find document τ record).2 = τ.storeAll (p.writes document τ) record := by
  rw [find, writes]
  cases checkFields τ p.rules with
  | error e => rfl
  | ok _ =>
      dsimp only
      rw [snd_runRules_record, snd_bindAll]

/-- **Extracting twice** into one record stores the same texts both times, and it ends both
times in the same way. What a dynamic record holds under a name, or a declared one in a field
that is no list, is the same after the second time as after the first. And for every field that
is a list there are items, the same for all records, that it has got once after the first time,
and twice after the second. -/
theorem find_again (p : Pattern) (document : Document) :
    (∀ (τ : RecordType) (record : τ.Value),
      (p.find document τ record).2 = τ.storeAll (p.writes document τ) record ∧
      (p.find document τ (p.find document τ record).2).1 = (p.find document τ record).1) ∧
    (∀ (record : RecordType.dynamic.Value) (name : String),
      Dictionary.get? (p.find document .dynamic (p.find document .dynamic record).2).2 name =
        Dictionary.get? (p.find document .dynamic record).2 name) ∧
    ∀ (first : Field) (rest : List Field) (i : Fin (first :: rest).length),
      ((first :: rest).get i).type.Repeats
        (fun row => Row.value (first :: rest) row i)
        (fun row => Row.value (first :: rest) (p.find document (.declared first rest) row).2 i)
        (fun row => Row.value (first :: rest)
          (p.find document (.declared first rest)
            (p.find document (.declared first rest) row).2).2 i) := by
  refine ⟨fun τ record => ⟨p.snd_find document τ record, ?_⟩, fun record name => ?_,
    fun first rest i => ?_⟩
  · rw [fst_find, fst_find]
  · obtain ⟨g, hg, hread⟩ := RecordType.updates_storeAll .dynamic (p.writes document .dynamic) name
    have honce : ∀ entries : RecordType.dynamic.Value,
        Dictionary.get? (p.find document .dynamic entries).2 name =
          g (Dictionary.get? entries name) := by
      intro entries
      rw [snd_find]
      exact hread entries
    calc Dictionary.get? (p.find document .dynamic (p.find document .dynamic record).2).2 name
        = g (Dictionary.get? (p.find document .dynamic record).2 name) := honce _
      _ = g (g (Dictionary.get? record name)) := congrArg g (honce record)
      _ = g (Dictionary.get? record name) := hg.apply_apply (Dictionary.get? record name)
      _ = Dictionary.get? (p.find document .dynamic record).2 name := (honce record).symm
  · obtain ⟨g, hg, hread⟩ := RecordType.updates_storeAll (.declared first rest)
      (p.writes document (.declared first rest)) i
    have honce : ∀ row, Row.value (first :: rest) (p.find document (.declared first rest) row).2 i =
        g (Row.value (first :: rest) row i) := by
      intro row
      rw [snd_find]
      exact hread row
    simp only [honce]
    exact hg.repeats fun row => Row.value (first :: rest) row i

/-- A list that is filled twice, beside the last value that was taken. -/
example :
    (compile "li (text All Last)").map (fun p =>
      let τ : RecordType := .declared ⟨"all", .list .text, "All"⟩ [⟨"last", .option .text, "Last"⟩]
      let document := Document.parse "<li>a<li>b"
      let once := (p.find document τ τ.default).2
      (once, (p.find document τ once).2)) =
    .ok ((["a", "b"], some "b", ()), (["a", "b", "a", "b"], some "b", ())) := by decide +kernel

end Harvest.Pattern
