import Harvest.Proofs.Except
import Harvest.Proofs.Record.Update

/-!
# Why a Record Refuses a Text

A dynamic record takes every text. A declared one looks for the first field that answers to the
name: without one the name is unknown, and otherwise the text is refused if the field's type
cannot read it. Lists and optional values have no refusals of their own. They pass on the one of
their items, so that a refusal always tells the text and the type of numbers it was read as.

## Main results

* `FieldType.eq_of_assign_error`: what a refusal of a field tells.
* `Row.assign_eq_error_iff`, `RecordType.assign_eq_error_iff`: the reasons why a record refuses
  a text.
-/

namespace Harvest.Record

/-- The name of the numbers that a field type holds, directly or as items; empty for texts. -/
def FieldType.kind : FieldType → String
  | .text => ""
  | .integer type => type.name
  | .float size => size.name
  | .list item => item.kind
  | .option item => item.kind

/-- A refusal tells the text and the type of numbers it was read as. -/
def FieldError.Tells (text kind : String) (e : FieldError) : Prop :=
  e = .parse text kind ∨ e = .overflow text kind

theorem coerceInteger_error {type : Number.IntegerType} {text : String} {e : FieldError}
    (h : coerceInteger type text = .error e) : e.Tells text type.name := by
  rw [coerceInteger] at h
  split at h
  · cases h
  · exact .inl (Except.error.inj h).symm
  · exact .inr (Except.error.inj h).symm

theorem coerceFloat_error {size : FloatSize} {text : String} {e : FieldError}
    (h : coerceFloat size text = .error e) : e.Tells text size.name := by
  rw [coerceFloat] at h
  split at h
  · exact .inl (Except.error.inj h).symm
  · split at h
    · cases h
    · split at h
      · split at h
        · exact .inr (Except.error.inj h).symm
        · cases h
      · cases h

/-- **A refusal of a field** tells the text and the type of numbers it was read as. -/
theorem FieldType.eq_of_assign_error {t : FieldType} {old : t.Value} {text : String}
    {e : FieldError} (h : t.assign old text = .error e) : e.Tells text t.kind := by
  induction t with
  | text => cases h
  | integer type => exact coerceInteger_error h
  | float size => exact coerceFloat_error h
  | list item ih => exact ih (map_eq_error_iff.1 h)
  | option item ih => exact ih (map_eq_error_iff.1 h)

/-- A field never takes itself for unknown. -/
theorem FieldType.assign_ne_unknownField (t : FieldType) (old : t.Value) (text name : String) :
    t.assign old text ≠ .error (.unknownField name) := by
  intro h
  rcases eq_of_assign_error h with heq | heq <;> cases heq

/-! ### Records -/

/-- The first field that answers to a name. -/
def fieldFor? (fields : List Field) (name : String) : Option Field :=
  fields.find? fun f => name = f.target

/-- **A row refuses a text** because no field answers to the name, or because the first field
that does refuses it, whatever it holds. -/
theorem Row.assign_eq_error_iff {fields : List Field} {row : Row fields} {name text : String}
    {e : FieldError} :
    Row.assign fields row name text = .error e ↔
      (name ∉ fields.map Field.target ∧ e = .unknownField name) ∨
        ∃ f, fieldFor? fields name = some f ∧
          f.type.assign f.type.default text = .error e := by
  induction fields with
  | nil => simp [Row.assign, fieldFor?, eq_comm]
  | cons f fs ih =>
      obtain ⟨value, row⟩ := row
      rw [Row.assign]
      by_cases hname : name = f.target
      · have hfound : fieldFor? (f :: fs) name = some f :=
          List.find?_cons_of_pos (decide_eq_true hname)
        have hmem : name ∈ (f :: fs).map Field.target := by simp [hname]
        rw [if_pos hname, map_eq_error_iff, hfound,
          f.type.assign_error_iff value f.type.default]
        constructor
        · intro h
          exact .inr ⟨f, rfl, h⟩
        · rintro (⟨hnot, -⟩ | ⟨f', hf', h⟩)
          · exact absurd hmem hnot
          · obtain rfl := Option.some.inj hf'
            exact h
      · have hnext : fieldFor? (f :: fs) name = fieldFor? fs name :=
          List.find?_cons_of_neg (by simpa using hname)
        have hmem : name ∈ (f :: fs).map Field.target ↔ name ∈ fs.map Field.target := by
          simp [hname]
        rw [if_neg hname, map_eq_error_iff, ih, hnext, hmem]

/-- The fields of a record type; none for dynamic records. -/
def RecordType.fields : RecordType → List Field
  | .dynamic => []
  | .declared first rest => first :: rest

/-- **A record refuses a text** because its type has names and this is none of them, or because
the first field that answers to the name refuses it. -/
theorem RecordType.assign_eq_error_iff {τ : RecordType} {record : τ.Value} {name text : String}
    {e : FieldError} :
    τ.assign record name text = .error e ↔
      (τ.fieldNames ≠ [] ∧ name ∉ τ.fieldNames ∧ e = .unknownField name) ∨
        ∃ f, fieldFor? τ.fields name = some f ∧
          f.type.assign f.type.default text = .error e := by
  cases τ with
  | dynamic => simp [RecordType.assign, RecordType.fieldNames, RecordType.fields, fieldFor?]
  | declared first rest =>
      have hnames : (RecordType.declared first rest).fieldNames ≠ [] := List.cons_ne_nil _ _
      rw [RecordType.assign, Row.assign_eq_error_iff, and_iff_right hnames]
      rfl

/-- A name of a record type is not unknown to its records. -/
theorem RecordType.assign_ne_unknownField {τ : RecordType} {name : String}
    (h : τ.fieldNames = [] ∨ name ∈ τ.fieldNames) (record : τ.Value) (text name' : String) :
    τ.assign record name text ≠ .error (.unknownField name') := by
  intro hassign
  rcases assign_eq_error_iff.1 hassign with ⟨hne, hnot, -⟩ | ⟨f, -, hf⟩
  · exact h.elim hne hnot
  · exact f.type.assign_ne_unknownField _ _ _ hf

end Harvest.Record
