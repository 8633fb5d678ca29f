import Mathlib.Data.Nat.Basic
import Harvest.Number.Integer

/-!
# Numerals

Which texts are numerals of an integer type, and what they are worth, is said here without
reading them: an optional sign and then one or more ASCII digits, however many, with the exact
value that they have in the decimal system. A range has no part in this.

Reading goes digit by digit and stops where it first finds something wrong. The values of the
beginnings of a numeral grow with their length, away from zero, and zero is in every range. So a
value in range is reached through values in range, and a value that is out of range is noticed
at some beginning of the text, whatever stands after it.

## Main results

* `IntegerType.read_eq_ok_iff`: a text is read if and only if it is a numeral of a value in
  range.
* `IntegerType.read_eq_outOfRange_iff`: a text is refused as out of range if and only if it
  begins with a numeral of a value out of range.
-/

namespace Harvest.Number

/-! ### Digits -/

/-- What digits are worth after digits that are worth `n`. -/
def decimalFrom (n : Nat) (digits : List Char) : Nat :=
  digits.foldl (fun n c => 10 * n + (c.toNat - '0'.toNat)) n

/-- What digits are worth in the decimal system. -/
def decimal (digits : List Char) : Nat :=
  decimalFrom 0 digits

/-- All characters of a text are ASCII digits. -/
def AllDigits (cs : List Char) : Prop :=
  ∀ c ∈ cs, c.isDigit = true

/-- A digit counts behind ten times the digits before. -/
theorem decimalFrom_cons (n : Nat) (c : Char) (cs : List Char) :
    decimalFrom n (c :: cs) = decimalFrom (10 * n + (c.toNat - '0'.toNat)) cs := by
  rw [decimalFrom, decimalFrom, List.foldl_cons]

/-- More digits are worth no less. -/
theorem le_decimalFrom (n : Nat) (cs : List Char) : n ≤ decimalFrom n cs := by
  induction cs generalizing n with
  | nil => exact Nat.le_refl n
  | cons c cs ih =>
      rw [decimalFrom_cons]
      have hrest := ih (10 * n + (c.toNat - '0'.toNat))
      omega

theorem allDigits_cons {c : Char} {cs : List Char} :
    AllDigits (c :: cs) ↔ c.isDigit = true ∧ AllDigits cs :=
  List.forall_mem_cons

/-- A character is read as a digit if it is an ASCII digit. -/
theorem digit?_eq (c : Char) :
    digit? c = if c.isDigit then some (c.toNat - '0'.toNat) else none := by
  have hdigit : ('0' ≤ c ∧ c ≤ '9') ↔ c.isDigit = true := by
    simp [Char.isDigit, Char.le_def]
  simp only [digit?, hdigit]

/-! ### Signed values -/

/-- A number with its sign. -/
def withSign (negative : Bool) (n : Nat) : Int :=
  if negative then -(n : Int) else n

/-- A value is one of the type. -/
def IntegerType.InRange (t : IntegerType) (value : Int) : Prop :=
  t.least ≤ value ∧ value ≤ t.greatest

instance (t : IntegerType) (value : Int) : Decidable (t.InRange value) :=
  inferInstanceAs (Decidable (_ ∧ _))

theorem IntegerType.least_le_zero (t : IntegerType) : t.least ≤ 0 := by
  rw [least]
  split <;> omega

theorem IntegerType.zero_le_greatest (t : IntegerType) : 0 ≤ t.greatest := by
  have hpos : ∀ k, 0 < Nat.pow 2 k := fun k => Nat.pow_pos (by decide)
  have hsigned := hpos (t.width.bits - 1)
  have hunsigned := hpos t.width.bits
  rw [greatest]
  split <;> omega

/-- A number of the same sign that is not larger is in range as well. -/
theorem IntegerType.InRange.mono {t : IntegerType} {negative : Bool} {m n : Nat}
    (h : t.InRange (withSign negative n)) (hle : m ≤ n) : t.InRange (withSign negative m) := by
  have hleast := t.least_le_zero
  have hgreatest := t.zero_le_greatest
  obtain ⟨hlow, hhigh⟩ := h
  cases negative with
  | false =>
      -- A positive value lies between zero and the larger one.
      simp only [withSign, Bool.false_eq_true, if_false] at hhigh ⊢
      exact ⟨by omega, by omega⟩
  | true =>
      simp only [withSign, if_true] at hlow ⊢
      exact ⟨by omega, by omega⟩

/-- Zero is in the range of every type. -/
theorem IntegerType.inRange_zero (t : IntegerType) (negative : Bool) :
    t.InRange (withSign negative 0) := by
  cases negative <;> exact ⟨t.least_le_zero, t.zero_le_greatest⟩

/-! ### Reading digits -/

section

variable {t : IntegerType} {negative : Bool} {n : Nat}

/-- A text with another character than digits is malformed. -/
theorem readDigits_cons_of_not_isDigit {c : Char} (hc : ¬ c.isDigit = true) (value : Int)
    (cs : List Char) : readDigits t negative value (c :: cs) = .error .malformed := by
  rw [readDigits, digit?_eq, if_neg hc]

/-- **One digit** is taken if the value that comes of it is in range. -/
theorem readDigits_cons_of_isDigit {c : Char} (hc : c.isDigit = true) (cs : List Char) :
    readDigits t negative (withSign negative n) (c :: cs) =
      if t.InRange (withSign negative (10 * n + (c.toNat - '0'.toNat))) then
        readDigits t negative (withSign negative (10 * n + (c.toNat - '0'.toNat))) cs
      else .error .outOfRange := by
  have hnext : (if negative then withSign negative n * 10 - ((c.toNat - '0'.toNat : Nat) : Int)
      else withSign negative n * 10 + ((c.toNat - '0'.toNat : Nat) : Int)) =
      withSign negative (10 * n + (c.toNat - '0'.toNat)) := by
    cases negative <;> simp only [withSign, if_true, Bool.false_eq_true, if_false] <;> push_cast <;>
      omega
  rw [readDigits, digit?_eq, if_pos hc]
  dsimp only
  rw [hnext]
  rfl

/-- Digits are read if there are only digits and the value that they lead to is in range. -/
theorem readDigits_eq_ok_iff (hn : t.InRange (withSign negative n)) {cs : List Char}
    {value : Int} :
    readDigits t negative (withSign negative n) cs = .ok value ↔
      AllDigits cs ∧ value = withSign negative (decimalFrom n cs) ∧ t.InRange value := by
  induction cs generalizing n with
  | nil =>
      rw [readDigits, Except.ok.injEq, eq_comm]
      exact ⟨fun h => ⟨nofun, h, h ▸ hn⟩, fun h => h.2.1⟩
  | cons c cs ih =>
      by_cases hc : c.isDigit = true
      · rw [readDigits_cons_of_isDigit hc, allDigits_cons, decimalFrom_cons]
        split
        · rename_i hnext
          rw [ih hnext]
          simp only [hc, true_and]
        · rename_i hnext
          -- The value that all digits lead to is no nearer to zero.
          refine ⟨nofun, ?_⟩
          rintro ⟨-, rfl, hvalue⟩
          exact absurd (hvalue.mono (le_decimalFrom _ cs)) hnext
      · rw [readDigits_cons_of_not_isDigit hc, allDigits_cons]
        exact ⟨nofun, fun h => absurd h.1.1 hc⟩

/-- Digits are refused as out of range if the value of some beginning of them is. -/
theorem readDigits_eq_outOfRange_iff (hn : t.InRange (withSign negative n)) {cs : List Char} :
    readDigits t negative (withSign negative n) cs = .error .outOfRange ↔
      ∃ front rest, cs = front ++ rest ∧ AllDigits front ∧
        ¬ t.InRange (withSign negative (decimalFrom n front)) := by
  induction cs generalizing n with
  | nil =>
      refine ⟨nofun, ?_⟩
      rintro ⟨front, rest, hcs, -, hout⟩
      obtain ⟨rfl, -⟩ := List.append_eq_nil_iff.1 hcs.symm
      exact absurd hn hout
  | cons c cs ih =>
      have hfront : ∀ {front rest : List Char}, c :: cs = front ++ rest →
          ¬ t.InRange (withSign negative (decimalFrom n front)) →
          ∃ front', front = c :: front' ∧ cs = front' ++ rest := by
        intro front rest hcs hout
        cases front with
        | nil => exact absurd hn hout
        | cons d front' =>
            obtain ⟨rfl, hrest⟩ := List.cons.inj hcs
            exact ⟨front', rfl, hrest⟩
      by_cases hc : c.isDigit = true
      · rw [readDigits_cons_of_isDigit hc]
        split
        · rename_i hnext
          rw [ih hnext]
          constructor
          · rintro ⟨front, rest, rfl, hdigits, hout⟩
            exact ⟨c :: front, rest, rfl, allDigits_cons.2 ⟨hc, hdigits⟩, hout⟩
          · rintro ⟨front, rest, hcs, hdigits, hout⟩
            obtain ⟨front', rfl, hrest⟩ := hfront hcs hout
            exact ⟨front', rest, hrest, (allDigits_cons.1 hdigits).2, hout⟩
        · rename_i hnext
          exact ⟨fun _ => ⟨[c], cs, rfl, allDigits_cons.2 ⟨hc, nofun⟩, hnext⟩, fun _ => rfl⟩
      · rw [readDigits_cons_of_not_isDigit hc]
        refine ⟨nofun, ?_⟩
        rintro ⟨front, rest, hcs, hdigits, hout⟩
        obtain ⟨front', rfl, -⟩ := hfront hcs hout
        exact absurd (allDigits_cons.1 hdigits).1 hc

end

/-! ### Numerals -/

/-- The numerals of an integer type, each with its exact value: one or more ASCII digits, with
a plus sign before them or without a sign, or with a minus sign if the type is signed. -/
inductive IsNumeral (t : IntegerType) : List Char → Int → Prop
  /-- Without a sign. -/
  | bare {digits : List Char} (hne : digits ≠ []) (h : AllDigits digits) :
      IsNumeral t digits (decimal digits)
  /-- With a plus sign. -/
  | plus {digits : List Char} (hne : digits ≠ []) (h : AllDigits digits) :
      IsNumeral t ('+' :: digits) (decimal digits)
  /-- With a minus sign. -/
  | minus {digits : List Char} (hsigned : t.signed = true) (hne : digits ≠ [])
      (h : AllDigits digits) : IsNumeral t ('-' :: digits) (-(decimal digits : Int))

section

variable {t : IntegerType}

/-- Digits do not begin with a sign. -/
theorem splitSign_of_allDigits {digits : List Char} (h : AllDigits digits) :
    splitSign t digits = (false, digits) := by
  unfold splitSign
  split
  · exact absurd (h _ List.mem_cons_self) (by decide)
  · exact absurd (h _ List.mem_cons_self) (by decide)
  · rfl

/-- A sign that the type has is taken from the text, and otherwise the text is left whole. -/
theorem splitSign_cases (t : IntegerType) (cs : List Char) :
    (∃ digits, cs = '+' :: digits ∧ splitSign t cs = (false, digits)) ∨
      (∃ digits, cs = '-' :: digits ∧ t.signed = true ∧ splitSign t cs = (true, digits)) ∨
      splitSign t cs = (false, cs) := by
  unfold splitSign
  split
  · exact .inl ⟨_, rfl, rfl⟩
  · split
    · rename_i hsigned
      exact .inr (.inl ⟨_, rfl, hsigned, rfl⟩)
    · exact .inr (.inr rfl)
  · exact .inr (.inr rfl)

/-- A text is a numeral if digits are left of it without its sign. -/
theorem isNumeral_iff {cs : List Char} {value : Int} :
    IsNumeral t cs value ↔
      (splitSign t cs).2 ≠ [] ∧ AllDigits (splitSign t cs).2 ∧
        value = withSign (splitSign t cs).1 (decimal (splitSign t cs).2) := by
  constructor
  · intro h
    cases h with
    | bare hne hdigits =>
        rw [splitSign_of_allDigits hdigits]
        exact ⟨hne, hdigits, rfl⟩
    | plus hne hdigits => exact ⟨hne, hdigits, rfl⟩
    | minus hsigned hne hdigits =>
        rw [splitSign, if_pos hsigned]
        exact ⟨hne, hdigits, rfl⟩
  · rintro ⟨hne, hdigits, rfl⟩
    rcases splitSign_cases t cs with ⟨digits, rfl, heq⟩ | ⟨digits, rfl, hsigned, heq⟩ | heq
    · rw [heq] at hne hdigits ⊢
      exact .plus hne hdigits
    · rw [heq] at hne hdigits ⊢
      exact .minus hsigned hne hdigits
    · rw [heq] at hne hdigits ⊢
      exact .bare hne hdigits

/-- The sign stands at the front. -/
theorem splitSign_append {front : List Char} (h : front ≠ []) (rest : List Char) :
    splitSign t (front ++ rest) = ((splitSign t front).1, (splitSign t front).2 ++ rest) := by
  obtain ⟨c, front, rfl⟩ := List.exists_cons_of_ne_nil h
  by_cases hplus : c = '+'
  · subst hplus
    rfl
  by_cases hminus : c = '-'
  · subst hminus
    rw [List.cons_append, splitSign, splitSign]
    split <;> rfl
  have hneither : ∀ cs, splitSign t (c :: cs) = (false, c :: cs) := fun cs =>
    splitSign.eq_3 t _ (fun _ h => hplus (List.cons.inj h).1) fun _ h => hminus (List.cons.inj h).1
  rw [List.cons_append, hneither, hneither]
  rfl

/-- A numeral has characters. -/
theorem IsNumeral.ne_nil {cs : List Char} {value : Int} (h : IsNumeral t cs value) : cs ≠ [] := by
  cases h with
  | bare hne _ => exact hne
  | plus _ _ => exact List.cons_ne_nil _ _
  | minus _ _ _ => exact List.cons_ne_nil _ _

/-- A text is a numeral of one value at most. -/
theorem IsNumeral.unique {cs : List Char} {value value' : Int} (h : IsNumeral t cs value)
    (h' : IsNumeral t cs value') : value = value' := by
  rw [isNumeral_iff] at h h'
  exact h.2.2.trans h'.2.2.symm

end

/-! ### Reading numerals -/

namespace IntegerType

variable {t : IntegerType} {text : String}

/-- The digits behind a sign are read with that sign. -/
theorem read_of_digits (h : (splitSign t text.toList).2 ≠ []) :
    t.read text =
      readDigits t (splitSign t text.toList).1 (withSign (splitSign t text.toList).1 0)
        (splitSign t text.toList).2 := by
  have hzero : ∀ negative, withSign negative 0 = 0 := by decide
  rw [read, hzero]
  exact if_neg fun hempty => h (List.isEmpty_iff.1 hempty)

/-- A text without digits is malformed. -/
theorem read_of_no_digits (h : (splitSign t text.toList).2 = []) :
    t.read text = .error .malformed := by
  rw [read]
  exact if_pos (List.isEmpty_iff.2 h)

/-- **A text is read** if it is a numeral of a value in range, and then as this value. -/
theorem read_eq_ok_iff {value : Int} :
    t.read text = .ok value ↔ IsNumeral t text.toList value ∧ t.InRange value := by
  rw [isNumeral_iff]
  by_cases hdigits : (splitSign t text.toList).2 = []
  · rw [read_of_no_digits hdigits]
    exact ⟨nofun, fun h => absurd hdigits h.1.1⟩
  · rw [read_of_digits hdigits, readDigits_eq_ok_iff (t.inRange_zero _), decimal, and_assoc,
      and_assoc]
    exact (and_iff_right hdigits).symm

/-- **A text is out of range** if it begins with a numeral of a value that is. -/
theorem read_eq_outOfRange_iff :
    t.read text = .error .outOfRange ↔
      ∃ front rest value, text.toList = front ++ rest ∧ IsNumeral t front value ∧
        ¬ t.InRange value := by
  constructor
  · intro h
    by_cases hdigits : (splitSign t text.toList).2 = []
    · rw [read_of_no_digits hdigits] at h
      cases h
    rw [read_of_digits hdigits, readDigits_eq_outOfRange_iff (t.inRange_zero _)] at h
    obtain ⟨front, rest, happend, hfront, hout⟩ := h
    have hne : front ≠ [] := by
      rintro rfl
      exact hout (t.inRange_zero _)
    rcases splitSign_cases t text.toList with
      ⟨digits, htext, heq⟩ | ⟨digits, htext, hsigned, heq⟩ | heq
    · rw [heq] at happend hout
      obtain rfl : digits = front ++ rest := happend
      exact ⟨'+' :: front, rest, _, htext, .plus hne hfront, hout⟩
    · rw [heq] at happend hout
      obtain rfl : digits = front ++ rest := happend
      exact ⟨'-' :: front, rest, _, htext, .minus hsigned hne hfront, hout⟩
    · rw [heq] at happend hout
      exact ⟨front, rest, _, happend, .bare hne hfront, hout⟩
  · rintro ⟨front, rest, value, htext, hnumeral, hout⟩
    have hsplit := splitSign_append (t := t) hnumeral.ne_nil rest
    obtain ⟨hne, hfront, rfl⟩ := isNumeral_iff.1 hnumeral
    rw [← htext] at hsplit
    have hdigits : (splitSign t text.toList).2 ≠ [] := by
      rw [hsplit]
      exact List.append_ne_nil_of_left_ne_nil hne rest
    rw [read_of_digits hdigits, readDigits_eq_outOfRange_iff (t.inRange_zero _), hsplit]
    exact ⟨_, rest, rfl, hfront, hout⟩

/-- A text is malformed if it is no numeral and begins with no numeral of a value out of
range. -/
theorem read_eq_malformed_iff :
    t.read text = .error .malformed ↔
      (∀ value, ¬ IsNumeral t text.toList value) ∧
        ∀ front rest value, text.toList = front ++ rest → IsNumeral t front value →
          t.InRange value := by
  constructor
  · intro h
    have hall : ∀ front rest value, text.toList = front ++ rest → IsNumeral t front value →
        t.InRange value := by
      intro front rest value htext hnumeral
      by_contra hout
      have hread := read_eq_outOfRange_iff.2 ⟨front, rest, value, htext, hnumeral, hout⟩
      rw [h] at hread
      cases hread
    refine ⟨fun value hnumeral => ?_, hall⟩
    have hread := read_eq_ok_iff.2
      ⟨hnumeral, hall text.toList [] value (List.append_nil _).symm hnumeral⟩
    rw [h] at hread
    cases hread
  · rintro ⟨hno, hall⟩
    rcases hread : t.read text with (_ | _) | value
    · rfl
    · obtain ⟨front, rest, value, htext, hnumeral, hout⟩ := read_eq_outOfRange_iff.1 hread
      exact absurd (hall front rest value htext hnumeral) hout
    · exact absurd (read_eq_ok_iff.1 hread).1 (hno value)

end IntegerType

end Harvest.Number
