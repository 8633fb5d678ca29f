import Mathlib.Data.List.Basic
import Harvest.Proofs.Extraction.Targets
import Harvest.Proofs.Extraction.Writes

/-!
# The Frame of an Extraction

A text that is stored under a name goes to one cell of a record: in a dynamic record to the one
of that name, and in a declared one to the first field that answers to it. All other cells stay
as they are. An extraction stores texts under the names of its targets only, while it searches
below elements and captures from them, whether these are accepted in the end or not, and up to
the place where a failure ends it. So it leaves every cell alone that is the destination of none
of its targets.

A list gets a new record for every accepted element of a rule at the top. What is written to it
comes from that rule and the rules below it, so that the targets of other rules do not count.

## Main results

* `RecordType.read_storeAll`: what texts that are stored leave alone.
* `read_find`: the cells that an extraction leaves alone.
* `read_of_mem_recordsOf`: the cells that are left alone in the records of a rule.
* `extraction_frame`: the frame of both extractions.
-/

namespace Harvest.Record

/-! ### The cell of a name -/

/-- The cell that a name leads to: the one of that name, or the first field that answers
to it. -/
def RecordType.LeadsTo : (τ : RecordType) → (name : String) → τ.Cell → Prop
  | .dynamic, name, c => c = name
  | .declared first rest, name, i =>
      ((first :: rest).get i).target = name ∧
        ∀ j, j < i → ((first :: rest).get j).target ≠ name

/-- A field that is not the first one to answer to the name keeps its value. -/
theorem Row.value_assign {fields : List Field} {row row' : Row fields} {name text : String}
    (h : Row.assign fields row name text = .ok row') {i : Fin fields.length}
    (hi : ¬ ((fields.get i).target = name ∧ ∀ j, j < i → (fields.get j).target ≠ name)) :
    Row.value fields row' i = Row.value fields row i := by
  induction fields with
  | nil => exact i.elim0
  | cons f fs ih =>
      obtain ⟨value, row⟩ := row
      rw [Row.assign] at h
      by_cases hname : name = f.target
      · rw [if_pos hname] at h
        obtain ⟨value', -, rfl⟩ := map_eq_ok_iff.1 h
        cases i using Fin.cases with
        | zero => exact absurd ⟨hname.symm, fun j hj => absurd hj (Fin.not_lt_zero j)⟩ hi
        | succ i => rfl
      · rw [if_neg hname] at h
        obtain ⟨rest, hrest, rfl⟩ := map_eq_ok_iff.1 h
        cases i using Fin.cases with
        | zero => rfl
        | succ i =>
            refine ih hrest fun hnamed => hi ⟨hnamed.1, fun j hj => ?_⟩
            cases j using Fin.cases with
            | zero => exact fun heq => hname heq.symm
            | succ j => exact hnamed.2 j (Fin.succ_lt_succ_iff.1 hj)

variable {τ : RecordType} {c : τ.Cell}

/-- **A text** that is stored leaves every cell alone that its name does not lead to. -/
theorem RecordType.read_store {write : String × String} (h : ¬ τ.LeadsTo write.1 c)
    (record : τ.Value) : τ.read (τ.store record write) c = τ.read record c := by
  rw [RecordType.store]
  cases hassign : τ.assign record write.1 write.2 with
  | error e => rfl
  | ok record' =>
      cases τ with
      | dynamic =>
          obtain rfl := Except.ok.inj hassign
          exact (Dictionary.get?_insert record write.1 c write.2).trans (if_neg h)
      | declared first rest => exact Row.value_assign hassign h

/-- **Texts** that are stored leave every cell alone that none of their names leads to. -/
theorem RecordType.read_storeAll {writes : List (String × String)}
    (h : ∀ write ∈ writes, ¬ τ.LeadsTo write.1 c) (record : τ.Value) :
    τ.read (τ.storeAll writes record) c = τ.read record c := by
  induction writes generalizing record with
  | nil => rfl
  | cons write writes ih =>
      obtain ⟨hwrite, hwrites⟩ := List.forall_mem_cons.1 h
      calc τ.read (τ.storeAll (write :: writes) record) c
          = τ.read (τ.storeAll writes (τ.store record write)) c := rfl
        _ = τ.read (τ.store record write) c := ih hwrites _
        _ = τ.read record c := RecordType.read_store hwrite record

end Harvest.Record

namespace Harvest.Extraction

open Html Record
open Pattern.Rule (targetsOfList)

/-- A cell is a destination of targets if the field of one of them leads to it. -/
def IsDestination (τ : RecordType) (targets : List Pattern.Target) (c : τ.Cell) : Prop :=
  ∃ t ∈ targets, τ.LeadsTo t.field c

/-- Of two fields that answer to one name, the second is the destination of no target. -/
theorem not_isDestination_of_lt {first : Field} {rest : List Field}
    {i j : Fin (first :: rest).length} (hlt : i < j)
    (hsame : ((first :: rest).get i).target = ((first :: rest).get j).target)
    (targets : List Pattern.Target) :
    ¬ IsDestination (.declared first rest) targets j := by
  rintro ⟨t, -, htarget, hfirst⟩
  exact hfirst i hlt (hsame.trans htarget)

variable {filters : Filter.Registry} {τ : RecordType} {c : τ.Cell}

/-- The destinations of a rule are among those of the rules that it is one of. -/
theorem IsDestination.of_mem {r : Pattern.Rule} {rs : List Pattern.Rule} (hr : r ∈ rs)
    (h : IsDestination τ (targetsOfList [r]) c) : IsDestination τ (targetsOfList rs) c := by
  obtain ⟨t, ht, hleads⟩ := h
  obtain ⟨before, after, rfl⟩ := List.append_of_mem hr
  refine ⟨t, ?_, hleads⟩
  rw [← List.singleton_append, Pattern.Rule.targetsOfList_append,
    Pattern.Rule.targetsOfList_append]
  exact List.mem_append_right _ (List.mem_append_left _ ht)

/-- Bindings store texts under the fields of their targets. -/
theorem exists_binding_of_mem_written {bs : List Binding} {write : String × String}
    (h : write ∈ written filters τ bs) : ∃ b ∈ bs, write.1 = b.1.field := by
  induction bs with
  | nil => cases h
  | cons b bs ih =>
      obtain ⟨target, raw⟩ := b
      rw [written] at h
      split at h
      · cases h
      · split at h
        · cases h
        · rcases List.mem_cons.1 h with rfl | h
          · exact ⟨_, List.mem_cons_self, rfl⟩
          · obtain ⟨b, hb, hfield⟩ := ih h
            exact ⟨b, List.mem_cons_of_mem _ hb, hfield⟩

/-- **Bindings** leave every cell alone that is not a destination of their targets. -/
theorem read_bindAll {targets : List Pattern.Target} {bs : List Binding}
    (hbs : ∀ b ∈ bs, b.1 ∈ targets) (hc : ¬ IsDestination τ targets c) (record : τ.Value) :
    τ.read (bindAll filters τ bs record).2 c = τ.read record c := by
  rw [snd_bindAll]
  refine RecordType.read_storeAll (fun write hwrite hleads => hc ?_) record
  obtain ⟨b, hb, hfield⟩ := exists_binding_of_mem_written hwrite
  exact ⟨b.1, hbs b hb, hfield ▸ hleads⟩

/-- **The records of a rule** are like the default record in every cell that is not a
destination of the targets of the rule and of the rules below it. -/
theorem read_of_mem_recordsOf {r : Pattern.Rule} {ts : List ElementTree} {record : τ.Value}
    (h : record ∈ recordsOf filters τ r ts) (hc : ¬ IsDestination τ (targetsOfList [r]) c) :
    τ.read record c = τ.read τ.default c := by
  obtain ⟨t, -, rfl⟩ := List.mem_map.1 h
  exact read_bindAll (fun b => target_mem_of_mem_bindings r) hc τ.default

end Harvest.Extraction

namespace Harvest.Pattern

open Extraction Html Record

/-- **An extraction** leaves every cell alone that is not a destination of the targets of the
pattern. -/
theorem read_find {p : Pattern} {τ : RecordType} {c : τ.Cell}
    (hc : ¬ IsDestination τ p.targets c) (document : Document) (record : τ.Value) :
    τ.read (p.find document τ record).2 c = τ.read record c := by
  rw [find]
  cases checkFields τ p.rules with
  | error e => rfl
  | ok _ =>
      dsimp only
      rw [snd_runRules_record]
      exact read_bindAll (fun b => target_mem_of_mem_bindingsOfAll p.rules) hc record

/-- A record that an extraction collects for a rule is what the rule leaves in a default record
at an element that it accepts. -/
theorem exists_populate_of_mem_recordsOf {p : Pattern} {document : Document} {τ : RecordType}
    (h : p.fault? document τ = none) {r : Rule} (hr : r ∈ p.rules) {record : τ.Value}
    (hrecord : record ∈ recordsOf p.filters τ r [document.root]) :
    ∃ t ∈ document.root.postorder, r.heading.selector.matches t.place = true ∧
      populate p.filters τ r t τ.default = (.ok true, record) := by
  obtain ⟨t, ht, rfl⟩ := List.mem_map.1 hrecord
  obtain ⟨hcandidate, haccepted⟩ := List.mem_filter.1 ht
  have hpopulate := populate_of_fault?_eq_none h hr hcandidate
  rw [haccepted] at hpopulate
  rw [candidates_singleton] at hcandidate
  obtain ⟨hmem, hmatch⟩ := List.mem_filter.1 hcandidate
  exact ⟨t, hmem, hmatch, hpopulate⟩

/-- **The frame of an extraction.** An extraction into a record, however it ends, leaves every
cell as it was to which the field of no target of the pattern leads: every other name of a
dynamic record and every other field of a declared one. Of two fields that answer to one name
only the first can change. An extraction into a list leaves the list as it was or appends records
to it, rule by rule: each of them is what a rule at the top leaves in a default record at an
element that it accepts, and it is like the default record in every cell to which the field of no
target of that rule and of the rules below it leads. -/
theorem extraction_frame (p : Pattern) (document : Document) :
    (∀ (τ : RecordType) (record : τ.Value) (c : τ.Cell), ¬ IsDestination τ p.targets c →
      τ.read (p.find document τ record).2 c = τ.read record c) ∧
    (∀ (first : Field) (rest : List Field) (i j : Fin (first :: rest).length), i < j →
      ((first :: rest).get i).target = ((first :: rest).get j).target →
      ∀ row, Row.value (first :: rest) (p.find document (.declared first rest) row).2 j =
        Row.value (first :: rest) row j) ∧
    ∀ τ : RecordType,
      (∃ e, ∀ records, p.findAll document τ records = (.error e, records)) ∨
      (∀ records, p.findAll document τ records =
        (.ok (), records ++ p.rules.flatMap fun r =>
          recordsOf p.filters τ r [document.root])) ∧
      ∀ r ∈ p.rules, ∀ record ∈ recordsOf p.filters τ r [document.root],
        (∃ t ∈ document.root.postorder, r.heading.selector.matches t.place = true ∧
          populate p.filters τ r t τ.default = (.ok true, record)) ∧
        ∀ c : τ.Cell, ¬ IsDestination τ (Rule.targetsOfList [r]) c →
          τ.read record c = τ.read τ.default c := by
  refine ⟨fun τ record c hc => read_find hc document record,
    fun first rest i j hlt hsame row => ?_, fun τ => ?_⟩
  · exact read_find (not_isDestination_of_lt hlt hsame p.targets) document row
  · cases hfault : p.fault? document τ with
    | some e =>
        refine .inl ⟨e, fun records => ?_⟩
        rw [findAll_eq, hfault]
    | none =>
        refine .inr ⟨fun records => ?_, fun r hr record hrecord =>
          ⟨exists_populate_of_mem_recordsOf hfault hr hrecord,
            fun c hc => read_of_mem_recordsOf hrecord hc⟩⟩
        rw [findAll_eq, hfault]
        rfl

/-- Fields of which the second answers to the name of the first, and the last to a name of its
own. -/
def sharedName : RecordType :=
  .declared ⟨"first", .text, "A"⟩ [⟨"second", .text, "A"⟩, ⟨"count", .integer ⟨false, .w8⟩, "N"⟩,
    ⟨"note", .text, "note"⟩]

/-- The theorem at two targets and fields of which two share a name: a text that is no number
ends the extraction after it was stored in the first field, and a number goes to the list. The
second field and the last one stay as they are. -/
theorem extraction_frame_shared_name :
    ∃ p, compile "li (text A N)" = .ok p ∧
      p.find (Document.parse "<li>x") sharedName ("a", "b", (5 : Int), "c", ()) =
        (.error (.assign "N" (.parse "x" "u8")), ("x", "b", (5 : Int), "c", ())) ∧
      (∀ document record, sharedName.read (p.find document sharedName record).2 (1 : Fin 4) =
        sharedName.read record (1 : Fin 4)) ∧
      (∀ document record, sharedName.read (p.find document sharedName record).2 (3 : Fin 4) =
        sharedName.read record (3 : Fin 4)) ∧
      (p.findAll (Document.parse "<li>7") sharedName []).2.length = 1 ∧
      ∀ record ∈ (p.findAll (Document.parse "<li>7") sharedName []).2,
        sharedName.read record (3 : Fin 4) = "" := by
  have hcompile : (compile "li (text A N)").map Pattern.targets =
      .ok [⟨"A", []⟩, ⟨"N", []⟩] := by decide +kernel
  have hfind : (compile "li (text A N)").map (fun p =>
      (p.find (Document.parse "<li>x") sharedName ("a", "b", (5 : Int), "c", ()) :
        Except FindError Unit × String × String × Int × String × Unit)) =
      .ok (.error (.assign "N" (.parse "x" "u8")), ("x", "b", (5 : Int), "c", ())) := by
    decide +kernel
  have hlist : (compile "li (text A N)").map (fun p =>
      ((p.findAll (Document.parse "<li>7") sharedName []).1,
        (p.findAll (Document.parse "<li>7") sharedName []).2.length)) =
      .ok (.ok (), 1) := by decide +kernel
  obtain ⟨p, hp, htargets⟩ := map_eq_ok_iff.1 hcompile
  rw [hp] at hfind hlist
  obtain ⟨hok, hlength⟩ := Prod.mk.inj (Except.ok.inj hlist)
  have hnote : ¬ IsDestination sharedName p.targets (3 : Fin 4) := by
    rintro ⟨t, ht, hleads, -⟩
    rw [htargets] at ht
    simp only [List.mem_cons, List.not_mem_nil, or_false] at ht
    rcases ht with rfl | rfl <;> exact absurd hleads (by decide)
  refine ⟨p, hp, Except.ok.inj hfind, fun document record => ?_,
    fun document record => ?_, hlength, ?_⟩
  · exact (extraction_frame p document).2.1 _ _ 0 1 (by decide) rfl record
  · exact (extraction_frame p document).1 sharedName record (3 : Fin 4) hnote
  · rcases (extraction_frame p (Document.parse "<li>7")).2.2 sharedName with
      ⟨e, herror⟩ | ⟨happend, hrecords⟩
    · rw [herror] at hok
      cases hok
    · intro record hrecord
      rw [happend, List.nil_append] at hrecord
      obtain ⟨r, hr, hrecord⟩ := List.mem_flatMap.1 hrecord
      exact (hrecords r hr record hrecord).2 (3 : Fin 4) fun hdest => hnote (hdest.of_mem hr)

end Harvest.Pattern
