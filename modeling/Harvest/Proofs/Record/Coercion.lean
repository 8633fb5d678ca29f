import Mathlib.Order.Fin.Basic
import Harvest.Proofs.Extraction.Frame
import Harvest.Proofs.Number.Numeral
import Harvest.Proofs.Record.Refusal

/-!
# Integer Fields

A field holds integers of a type directly, or through lists and options in any nesting. On the
way down to the integers each container starts with a fresh item, and on the way up each list
appends the item and each option puts it in the place of the old one. So the outermost container
alone keeps what it held before, and whether a text is taken is decided by the integers at the
bottom.

Fields are changed where they stand. A refusal comes back through all the containers before any
of them has been changed, the one whose item was refused included.

## Main results

* `FieldType.assign_of_isOver`: what a field that is made of integers makes of a text.
* `RecordType.assignInPlace_eq`: a refusal leaves a record as it was.
* `integer_assign`: which texts an integer field takes, and what the record holds then.
* `integer_refusal`: why an integer field refuses a text.
-/

namespace Harvest.Record

open Number

/-! ### Fields that are made of integers -/

/-- The field types whose values are integers of a type or come of them by nesting lists and
options. -/
inductive FieldType.IsOver (t : IntegerType) : FieldType → Prop
  /-- The integers. -/
  | integer : IsOver t (.integer t)
  /-- Lists. -/
  | list {item : FieldType} (h : IsOver t item) : IsOver t (.list item)
  /-- Options. -/
  | option {item : FieldType} (h : IsOver t item) : IsOver t (.option item)

/-- What a field that holds `old` holds after it has got a number: an integer is replaced, a list
goes on with one more item, and an option holds an item in the place of the old one. The items
are made from the default. A field without integers gets no numbers. -/
def FieldType.withInteger : (ft : FieldType) → (old : ft.Value) → Int → ft.Value
  | .integer _, _, n => n
  | .list item, old, n => (old ++ [item.withInteger item.default n] : List item.Value)
  | .option item, _, n => some (item.withInteger item.default n)
  | .text, old, _ => old
  | .float _, old, _ => old

/-- **A field of integers** reads every text as an integer and takes the number if there is
one. -/
theorem FieldType.assign_of_isOver {t : IntegerType} {ft : FieldType} (h : ft.IsOver t)
    (old : ft.Value) (text : String) :
    ft.assign old text = (coerceInteger t text).map (ft.withInteger old) := by
  induction h with
  | integer =>
      rw [FieldType.assign]
      cases coerceInteger t text <;> rfl
  | list _ ih =>
      rw [FieldType.assign, ih]
      cases coerceInteger t text <;> rfl
  | option _ ih =>
      rw [FieldType.assign, ih]
      cases coerceInteger t text <;> rfl

/-- A text is an integer of a type if it is a numeral in the range of the type. -/
theorem coerceInteger_eq_ok_iff {t : IntegerType} {text : String} {n : Int} :
    coerceInteger t text = .ok n ↔ IsNumeral t text.toList n ∧ t.InRange n := by
  rw [← IntegerType.read_eq_ok_iff, coerceInteger]
  rcases t.read text with (_ | _) | n <;> simp

theorem coerceInteger_eq_overflow_iff {t : IntegerType} {text : String} :
    coerceInteger t text = .error (.overflow text t.name) ↔
      t.read text = .error .outOfRange := by
  rw [coerceInteger]
  rcases t.read text with (_ | _) | n <;> simp

theorem coerceInteger_eq_parse_iff {t : IntegerType} {text : String} :
    coerceInteger t text = .error (.parse text t.name) ↔
      t.read text = .error .malformed := by
  rw [coerceInteger]
  rcases t.read text with (_ | _) | n <;> simp

/-! ### Stores in place -/

/-- Stores a text in a field where it stands. The result is whether that succeeded and what the
field holds in the end. -/
def FieldType.assignInPlace : (ft : FieldType) → ft.Value → String →
    Except FieldError Unit × ft.Value
  | .text, _, source => (.ok (), source)
  | .integer t, value, source =>
      match coerceInteger t source with
      | .error e => (.error e, value)
      | .ok n => (.ok (), n)
  | .float size, value, source =>
      match coerceFloat size source with
      | .error e => (.error e, value)
      | .ok x => (.ok (), x)
  | .list item, items, source =>
      -- A new item is filled in place and then moved to the list.
      match item.assignInPlace item.default source with
      | (.error e, _) => (.error e, items)
      | (.ok (), value) => (.ok (), (items ++ [value] : List item.Value))
  | .option item, held, source =>
      match item.assignInPlace item.default source with
      | (.error e, _) => (.error e, held)
      | (.ok (), value) => (.ok (), some value)

/-- Stores a text in the first field that answers to a name, where it stands. -/
def Row.assignInPlace : (fields : List Field) → Row fields → (name text : String) →
    Except FieldError Unit × Row fields
  | [], row, name, _ => (.error (.unknownField name), row)
  | f :: fs, (value, row), name, text =>
      if name = f.target then
        let (result, value) := f.type.assignInPlace value text
        (result, (value, row))
      else
        let (result, row) := Row.assignInPlace fs row name text
        (result, (value, row))

/-- Stores a text under a name of a record, where it stands. -/
def RecordType.assignInPlace : (τ : RecordType) → τ.Value → (name text : String) →
    Except FieldError Unit × τ.Value
  | .dynamic, entries, name, text => (.ok (), Dictionary.insert entries name text)
  | .declared first rest, row, name, text => Row.assignInPlace (first :: rest) row name text

/-- The result of a store, and what is there in the end: the new value, or the old one after a
refusal. -/
def settle {α : Type} (old : α) : Except FieldError α → Except FieldError Unit × α
  | .ok new => (.ok (), new)
  | .error e => (.error e, old)

/-- Assigning to a field in place leaves its old value where the text is refused. -/
theorem FieldType.assignInPlace_eq (ft : FieldType) (old : ft.Value) (text : String) :
    ft.assignInPlace old text = settle old (ft.assign old text) := by
  induction ft with
  | text => rfl
  | integer t =>
      rw [FieldType.assignInPlace, FieldType.assign]
      cases coerceInteger t text <;> rfl
  | float size =>
      rw [FieldType.assignInPlace, FieldType.assign]
      cases coerceFloat size text <;> rfl
  | list item ih | option item ih =>
      rw [FieldType.assignInPlace, FieldType.assign, ih]
      cases item.assign item.default text <;> rfl

/-- Assigning to a row in place leaves the old row where the text is refused. -/
theorem Row.assignInPlace_eq (fields : List Field) (row : Row fields) (name text : String) :
    Row.assignInPlace fields row name text = settle row (Row.assign fields row name text) := by
  induction fields with
  | nil => rfl
  | cons f fs ih =>
      obtain ⟨value, row⟩ := row
      rw [Row.assignInPlace, Row.assign]
      by_cases hname : name = f.target
      · rw [if_pos hname, if_pos hname, FieldType.assignInPlace_eq]
        cases f.type.assign value text <;> rfl
      · rw [if_neg hname, if_neg hname, ih]
        cases Row.assign fs row name text <;> rfl

/-- **A store in place** leaves a record as it was if it fails. -/
theorem RecordType.assignInPlace_eq (τ : RecordType) (record : τ.Value) (name text : String) :
    τ.assignInPlace record name text = settle record (τ.assign record name text) := by
  cases τ with
  | dynamic => rfl
  | declared first rest => exact Row.assignInPlace_eq (first :: rest) record name text

/-! ### Records with integer fields -/

/-- A row does with the first field that answers to the name what the field does. -/
theorem Row.map_value_assign {fields : List Field} {name : String} {i : Fin fields.length}
    (hname : (fields.get i).target = name ∧ ∀ j, j < i → (fields.get j).target ≠ name)
    (row : Row fields) (text : String) :
    (Row.assign fields row name text).map (fun row' => Row.value fields row' i) =
      (fields.get i).type.assign (Row.value fields row i) text := by
  induction fields with
  | nil => exact i.elim0
  | cons f fs ih =>
      obtain ⟨value, row⟩ := row
      rw [Row.assign]
      cases i using Fin.cases with
      | zero =>
          rw [if_pos (show name = f.target from hname.1.symm)]
          change _ = f.type.assign value text
          cases f.type.assign value text <;> rfl
      | succ i =>
          have hnot : name ≠ f.target := fun heq => hname.2 0 (Fin.succ_pos i) heq.symm
          have hnext : (fs.get i).target = name ∧ ∀ j, j < i → (fs.get j).target ≠ name :=
            ⟨hname.1, fun j hj => hname.2 j.succ (Fin.succ_lt_succ_iff.2 hj)⟩
          rw [if_neg hnot]
          refine Eq.trans ?_ (ih hnext row)
          cases Row.assign fs row name text <;> rfl

section

variable {first : Field} {rest : List Field} {name : String} {i : Fin (first :: rest).length}

/-- Only one field is the first to answer to a name. -/
theorem RecordType.LeadsTo.unique {j : Fin (first :: rest).length}
    (hi : RecordType.LeadsTo (.declared first rest) name i)
    (hj : RecordType.LeadsTo (.declared first rest) name j) : i = j := by
  rcases lt_trichotomy i j with hlt | heq | hlt
  · exact absurd hi.1 (hj.2 i hlt)
  · exact heq
  · exact absurd hj.1 (hi.2 j hlt)

/-- **An integer field** of a record, one that holds integers of a type directly or through lists
and options, takes exactly the numerals of the values in the range of the type. Then it holds
this integer, an item more with it, or an option of an item with it, where items are made from
the default; all other fields stay as they are. If the text is refused, the record is left
exactly as it was. -/
theorem integer_assign {t : IntegerType}
    (hname : RecordType.LeadsTo (.declared first rest) name i)
    (hover : ((first :: rest).get i).type.IsOver t)
    (record : (RecordType.declared first rest).Value) (text : String) :
    ((∃ record', (RecordType.declared first rest).assign record name text = .ok record') ↔
        ∃ n, IsNumeral t text.toList n ∧ t.InRange n) ∧
      (∀ record' n, (RecordType.declared first rest).assign record name text = .ok record' →
        IsNumeral t text.toList n →
        (RecordType.declared first rest).assignInPlace record name text = (.ok (), record') ∧
          Row.value (first :: rest) record' i =
            ((first :: rest).get i).type.withInteger (Row.value (first :: rest) record i) n ∧
          ∀ j, j ≠ i →
            Row.value (first :: rest) record' j = Row.value (first :: rest) record j) ∧
      ∀ e, (RecordType.declared first rest).assign record name text = .error e →
        (RecordType.declared first rest).assignInPlace record name text = (.error e, record) := by
  -- The record does what the field does, and the field reads the text as an integer.
  have hfield : ((RecordType.declared first rest).assign record name text).map
      (fun record' => Row.value (first :: rest) record' i) = _ :=
    (Row.map_value_assign hname record text).trans (FieldType.assign_of_isOver hover _ text)
  have hinPlace := RecordType.assignInPlace_eq (.declared first rest) record name text
  refine ⟨?_, ?_, ?_⟩
  · simp only [← coerceInteger_eq_ok_iff]
    constructor
    · rintro ⟨record', hok⟩
      rw [hok] at hfield
      obtain ⟨n, hn, -⟩ := map_eq_ok_iff.1 hfield.symm
      exact ⟨n, hn⟩
    · rintro ⟨n, hn⟩
      rw [hn] at hfield
      obtain ⟨record', hok, -⟩ := map_eq_ok_iff.1 hfield
      exact ⟨record', hok⟩
  · intro record' n hok hnumeral
    rw [hok] at hfield hinPlace
    obtain ⟨n', hn', hvalue⟩ := map_eq_ok_iff.1 hfield.symm
    obtain rfl := (coerceInteger_eq_ok_iff.1 hn').1.unique hnumeral
    exact ⟨hinPlace, hvalue.symm, fun j hj =>
      Row.value_assign hok fun hj' => hj (RecordType.LeadsTo.unique hj' hname)⟩
  · intro e herror
    rw [herror] at hinPlace
    exact hinPlace

/-- A list of options of bytes gets an item for a numeral with a sign and a leading zero, and it
is left as it was by a number that is too large. -/
theorem integer_assign_list_of_options :
    (∃ record', (RecordType.declared ⟨"sizes", .list (.option (.integer ⟨true, .w8⟩)), "sizes"⟩
        []).assign ([some 3], ()) "sizes" "-0128" = .ok record' ∧
          record'.1 = [some 3, some (-128)]) ∧
      (RecordType.declared ⟨"sizes", .list (.option (.integer ⟨true, .w8⟩)), "sizes"⟩
        []).assignInPlace ([some 3], ()) "sizes" "128" =
          (.error (.overflow "128" "i8"), ([some 3], ())) := by
  have hname : RecordType.LeadsTo
      (.declared ⟨"sizes", .list (.option (.integer ⟨true, .w8⟩)), "sizes"⟩ []) "sizes"
      (0 : Fin 1) := ⟨rfl, fun j hj => absurd hj (Fin.not_lt_zero j)⟩
  have hover : FieldType.IsOver ⟨true, .w8⟩ (.list (.option (.integer ⟨true, .w8⟩))) :=
    .list (.option .integer)
  constructor
  · have hread : IntegerType.read ⟨true, .w8⟩ "-0128" = .ok (-128) := by decide +kernel
    obtain ⟨hnumeral, hrange⟩ := IntegerType.read_eq_ok_iff.1 hread
    obtain ⟨record', hok⟩ := (integer_assign hname hover ([some 3], ()) "-0128").1.2
      ⟨-128, hnumeral, hrange⟩
    obtain ⟨-, hvalue, -⟩ := (integer_assign hname hover ([some 3], ()) "-0128").2.1 record' _ hok
      hnumeral
    exact ⟨record', hok, hvalue⟩
  · exact (integer_assign hname hover ([some 3], ()) "128").2.2 _ (by decide +kernel)

end

/-! ### Refusals -/

/-- **An integer field refuses a text** as an overflow if the text begins with a numeral of a
value out of range, whatever follows, and otherwise as no literal if it is no numeral. It has no
other reasons. -/
theorem integer_refusal {t : IntegerType} {ft : FieldType} (h : ft.IsOver t) (old : ft.Value)
    (text : String) :
    (ft.assign old text = .error (.overflow text t.name) ↔
        ∃ front back n, text.toList = front ++ back ∧ IsNumeral t front n ∧ ¬ t.InRange n) ∧
      (ft.assign old text = .error (.parse text t.name) ↔
        (∀ n, ¬ IsNumeral t text.toList n) ∧
          ∀ front back n, text.toList = front ++ back → IsNumeral t front n → t.InRange n) ∧
      ∀ e, ft.assign old text = .error e →
        e = .overflow text t.name ∨ e = .parse text t.name := by
  rw [FieldType.assign_of_isOver h]
  refine ⟨?_, ?_, fun e he => ?_⟩
  · rw [map_eq_error_iff, coerceInteger_eq_overflow_iff, IntegerType.read_eq_outOfRange_iff]
  · rw [map_eq_error_iff, coerceInteger_eq_parse_iff, IntegerType.read_eq_malformed_iff]
  · exact (coerceInteger_error (map_eq_error_iff.1 he)).symm

/-- A price with a currency is taken for an overflow if its digits are too many, and otherwise for
what it is, no literal. -/
theorem integer_refusal_currency :
    (FieldType.integer ⟨false, .w32⟩).assign (0 : Int) "4294967296 EUR" =
        .error (.overflow "4294967296 EUR" "u32") ∧
      (FieldType.integer ⟨false, .w32⟩).assign (0 : Int) "4294967295 EUR" =
        .error (.parse "4294967295 EUR" "u32") := by
  have hlarge : IntegerType.read ⟨false, .w32⟩ "4294967296 EUR" = .error .outOfRange := by
    decide +kernel
  have hsmall : IntegerType.read ⟨false, .w32⟩ "4294967295 EUR" = .error .malformed := by
    decide +kernel
  exact ⟨(integer_refusal .integer (0 : Int) "4294967296 EUR").1.2
      (IntegerType.read_eq_outOfRange_iff.1 hlarge),
    (integer_refusal .integer (0 : Int) "4294967295 EUR").2.1.2
      (IntegerType.read_eq_malformed_iff.1 hsmall)⟩

/-- A text that is no numeral, of any value, is refused as an overflow. -/
theorem overflow_of_no_numeral :
    (FieldType.integer ⟨false, .w32⟩).assign (0 : Int) "4294967296 EUR" =
        .error (.overflow "4294967296 EUR" "u32") ∧
      ∀ n, ¬ IsNumeral ⟨false, .w32⟩ "4294967296 EUR".toList n := by
  refine ⟨by decide +kernel, fun n h => ?_⟩
  exact absurd ((isNumeral_iff.1 h).2.1 ' ' (by decide)) (by decide)

end Harvest.Record
