import Mathlib.Data.List.TakeWhile
import Mathlib.Tactic.FieldSimp
import Harvest.Proofs.Number.Numeral
import Harvest.Proofs.Number.Rounding

/-!
# Decimal Literals and Their Values

What a decimal literal is and what it is worth is said here part by part: a sign, the digits
before and after the point, and an exponent. Each part may be missing, but not all digits. The
value is a rational number, and nothing limits the digits or the exponent.

Reading takes the parts off one after the other, each as long as it gets. Where one part ends is
never in doubt, since the next one begins with a character that cannot continue it.

## Main results

* `isDecimal_iff`: a text is read to a decimal if and only if it is a literal, and the decimal
  is worth what the literal is.
-/

namespace Harvest.Number

/-! ### Parts of a literal -/

/-- A sign, and whether it negates. -/
inductive IsSign : List Char → Bool → Prop
  /-- No sign. -/
  | absent : IsSign [] false
  /-- A plus sign. -/
  | plus : IsSign ['+'] false
  /-- A minus sign. -/
  | minus : IsSign ['-'] true

/-- What stands between the digits before the point and the exponent, and the digits in it. -/
inductive IsFraction : List Char → List Char → Prop
  /-- No point. -/
  | absent : IsFraction [] []
  /-- A point and digits, if there are any. -/
  | point {digits : List Char} (h : AllDigits digits) : IsFraction ('.' :: digits) digits

/-- An exponent and its value. -/
inductive IsExponent : List Char → Int → Prop
  /-- No exponent. -/
  | absent : IsExponent [] 0
  /-- A mark, and one or more digits with or without a sign. -/
  | written {mark : Char} {sign digits : List Char} {negative : Bool}
      (hmark : mark = 'e' ∨ mark = 'E') (hsign : IsSign sign negative) (hne : digits ≠ [])
      (h : AllDigits digits) :
      IsExponent (mark :: (sign ++ digits)) (withSign negative (decimal digits))

/-- A rational number with its sign. -/
def signed (negative : Bool) (q : ℚ) : ℚ :=
  if negative then -q else q

/-- **A decimal literal** and its exact value: a sign, digits with a point among, before or after
them, and an exponent. -/
inductive IsDecimal : List Char → ℚ → Prop
  /-- The parts in their order, with a digit before or after the point. -/
  | intro {sign whole part fraction tail : List Char} {negative : Bool} {e : Int}
      (hsign : IsSign sign negative) (hwhole : AllDigits whole) (hpart : IsFraction part fraction)
      (htail : IsExponent tail e) (hne : whole ++ fraction ≠ []) :
      IsDecimal (sign ++ (whole ++ (part ++ tail)))
        (signed negative
          ((decimal whole + decimal fraction / 10 ^ fraction.length : ℚ) * 10 ^ e))

/-! ### Values of digits -/

/-- Digits after others move these by their number. -/
theorem decimalFrom_eq (n : Nat) (cs : List Char) :
    decimalFrom n cs = n * 10 ^ cs.length + decimal cs := by
  rw [decimal]
  induction cs generalizing n with
  | nil => simp [decimalFrom]
  | cons c cs ih =>
      rw [decimalFrom_cons, decimalFrom_cons, ih, ih (10 * 0 + _), List.length_cons, pow_succ]
      ring

/-- The digits of a literal are worth what the digits of a numeral are. -/
theorem digitsValue_eq (cs : List Char) : digitsValue cs = decimal cs := by
  simp only [digitsValue, decimal, decimalFrom, Nat.mul_comm]

/-- Digits before and after a point, read as one numeral. -/
theorem digitsValue_append (whole fraction : List Char) :
    digitsValue (whole ++ fraction) =
      decimal whole * 10 ^ fraction.length + decimal fraction := by
  rw [digitsValue_eq, ← decimalFrom_eq, decimal, decimalFrom, List.foldl_append]
  rfl

/-- The value of a decimal. -/
def Decimal.value (d : Decimal) : ℚ :=
  signed d.negative d.magnitude

/-- A magnitude is not negative. -/
theorem Decimal.magnitude_nonneg (d : Decimal) : 0 ≤ d.magnitude := by
  rw [magnitude]
  positivity

/-- A decimal is worth its magnitude, up to the sign. -/
theorem Decimal.abs_value (d : Decimal) : |d.value| = d.magnitude := by
  rw [value, signed]
  split
  · rw [abs_neg, abs_of_nonneg d.magnitude_nonneg]
  · exact abs_of_nonneg d.magnitude_nonneg

/-- A decimal other than zero has the sign of its value. -/
theorem Decimal.value_lt_zero_iff {d : Decimal} (h : 0 < d.magnitude) :
    d.value < 0 ↔ d.negative = true := by
  rw [value, signed]
  split
  · rename_i hnegative
    exact iff_of_true (neg_lt_zero.2 h) hnegative
  · rename_i hpositive
    exact iff_of_false h.not_gt hpositive

/-- Digits around a point are worth the digits without it, moved by the number of digits after
it. -/
theorem value_of_parts (negative : Bool) (whole fraction : List Char) (e : Int) :
    Decimal.value ⟨negative, digitsValue (whole ++ fraction), e - fraction.length⟩ =
      signed negative ((decimal whole + decimal fraction / 10 ^ fraction.length : ℚ) * 10 ^ e) := by
  have hten : (10 : ℚ) ≠ 0 := by norm_num
  have hmagnitude : Decimal.magnitude
      ⟨negative, digitsValue (whole ++ fraction), e - fraction.length⟩ =
      (decimal whole + decimal fraction / 10 ^ fraction.length : ℚ) * 10 ^ e := by
    rw [Decimal.magnitude, digitsValue_append, zpow_sub₀ hten, zpow_natCast]
    push_cast
    field_simp
  rw [Decimal.value, hmagnitude]

/-! ### Taking off the parts -/

/-- A sign is taken off if the rest does not begin with one. -/
theorem spanSign_append {sign rest : List Char} {negative : Bool} (h : IsSign sign negative)
    (hrest : ∀ c ∈ rest.head?, c ≠ '+' ∧ c ≠ '-') : spanSign (sign ++ rest) = (negative, rest) := by
  cases h with
  | absent =>
      cases rest with
      | nil => rfl
      | cons c rest =>
          obtain ⟨hplus, hminus⟩ := hrest c rfl
          exact spanSign.eq_3 _ (fun _ h => hplus (List.cons.inj h).1)
            fun _ h => hminus (List.cons.inj h).1
  | plus => rfl
  | minus => rfl

/-- What is taken off as a sign is one. -/
theorem exists_isSign {cs rest : List Char} {negative : Bool}
    (h : spanSign cs = (negative, rest)) : ∃ sign, IsSign sign negative ∧ cs = sign ++ rest := by
  unfold spanSign at h
  split at h <;> obtain ⟨rfl, rfl⟩ := Prod.mk.inj h
  · exact ⟨_, .plus, rfl⟩
  · exact ⟨_, .minus, rfl⟩
  · exact ⟨_, .absent, rfl⟩

/-- Digits are taken off if the rest does not begin with one. -/
theorem spanDigits_append {digits rest : List Char} (h : AllDigits digits)
    (hrest : ∀ c ∈ rest.head?, ¬ c.isDigit = true) :
    spanDigits (digits ++ rest) = (digits, rest) := by
  rw [spanDigits, List.takeWhile_append_of_pos h, List.dropWhile_append_of_pos h]
  cases rest with
  | nil => simp
  | cons c rest =>
      have hc := hrest c rfl
      rw [List.takeWhile_cons_of_neg hc, List.dropWhile_cons_of_neg hc, List.append_nil]

/-- What is taken off as digits are digits. -/
theorem allDigits_of_spanDigits {cs digits rest : List Char}
    (h : spanDigits cs = (digits, rest)) : AllDigits digits ∧ cs = digits ++ rest := by
  obtain ⟨rfl, rfl⟩ := Prod.mk.inj h
  exact ⟨fun _ hc => List.mem_takeWhile_imp hc, List.takeWhile_append_dropWhile.symm⟩

/-- Takes off a point and the digits after it. -/
def spanFraction : List Char → List Char × List Char
  | '.' :: cs => spanDigits cs
  | cs => ([], cs)

/-- A point and digits are taken off if neither comes right after them. -/
theorem spanFraction_append {part fraction rest : List Char} (h : IsFraction part fraction)
    (hrest : ∀ c ∈ rest.head?, ¬ c.isDigit = true ∧ c ≠ '.') :
    spanFraction (part ++ rest) = (fraction, rest) := by
  cases h with
  | absent =>
      cases rest with
      | nil => rfl
      | cons c rest => exact spanFraction.eq_2 _ fun _ h => (hrest c rfl).2 (List.cons.inj h).1
  | point h => exact spanDigits_append h fun c hc => (hrest c hc).1

/-- What is taken off as a point and digits is that. -/
theorem exists_isFraction {cs fraction rest : List Char}
    (h : spanFraction cs = (fraction, rest)) :
    ∃ part, IsFraction part fraction ∧ cs = part ++ rest := by
  unfold spanFraction at h
  split at h
  · obtain ⟨hdigits, rfl⟩ := allDigits_of_spanDigits h
    exact ⟨_, .point hdigits, rfl⟩
  · obtain ⟨rfl, rfl⟩ := Prod.mk.inj h
    exact ⟨_, .absent, rfl⟩

/-! ### Exponents -/

instance (cs : List Char) : Decidable (AllDigits cs) :=
  inferInstanceAs (Decidable (∀ c ∈ cs, c.isDigit = true))

/-- An exponent is read from a mark, a sign and digits to the end. -/
theorem readExponent?_cons {mark : Char} {cs digits : List Char} {negative : Bool}
    (hsign : spanSign cs = (negative, digits)) :
    readExponent? (mark :: cs) =
      if mark = 'e' ∨ mark = 'E' then
        if digits ≠ [] ∧ AllDigits digits then some (withSign negative (decimal digits)) else none
      else none := by
  have hdigits : (digits.isEmpty || !digits.all Char.isDigit) = true ↔
      ¬ (digits ≠ [] ∧ AllDigits digits) := by
    rw [Bool.or_eq_true, List.isEmpty_iff, Bool.not_eq_true', ← Bool.not_eq_true, List.all_eq_true,
      not_and_or, not_not]
    rfl
  have hread : readExponent? (mark :: cs) =
      if mark = 'e' ∨ mark = 'E' then
        if ((spanSign cs).2.isEmpty || !(spanSign cs).2.all Char.isDigit) = true then none
        else some (withSign (spanSign cs).1 (digitsValue (spanSign cs).2))
      else none := rfl
  rw [hread, hsign]
  simp only [hdigits, ite_not, digitsValue_eq]

/-- A digit is no other character. -/
theorem ne_of_isDigit {c d : Char} (hc : c.isDigit = true) (hd : ¬ d.isDigit = true) : c ≠ d :=
  fun heq => hd (heq ▸ hc)

/-- Digits do not begin with a sign. -/
theorem AllDigits.head_ne {digits : List Char} (h : AllDigits digits) :
    ∀ c ∈ digits.head?, c ≠ '+' ∧ c ≠ '-' := fun c hc =>
  have hdigit := h c (List.mem_of_mem_head? hc)
  ⟨ne_of_isDigit hdigit (by decide), ne_of_isDigit hdigit (by decide)⟩

/-- An exponent is read if it is one. -/
theorem readExponent?_eq_some_iff {cs : List Char} {e : Int} :
    readExponent? cs = some e ↔ IsExponent cs e := by
  constructor
  · intro h
    cases cs with
    | nil =>
        obtain rfl := Option.some.inj h
        exact .absent
    | cons mark cs =>
        rcases hspan : spanSign cs with ⟨negative, digits⟩
        rw [readExponent?_cons hspan] at h
        obtain ⟨sign, hsign, rfl⟩ := exists_isSign hspan
        split at h
        · rename_i hmark
          split at h
          · rename_i hdigits
            obtain rfl := Option.some.inj h
            exact .written hmark hsign hdigits.1 hdigits.2
          · cases h
        · cases h
  · intro h
    cases h with
    | absent => rfl
    | written hmark hsign hne h =>
        rw [readExponent?_cons (spanSign_append hsign h.head_ne), if_pos hmark, if_pos ⟨hne, h⟩]

/-- An exponent begins with its mark. -/
theorem IsExponent.head_eq {cs : List Char} {e : Int} (h : IsExponent cs e) :
    ∀ c ∈ cs.head?, c = 'e' ∨ c = 'E' := by
  intro c hc
  cases h with
  | absent => cases hc
  | written hmark _ _ _ => rwa [← Option.some.inj hc]

/-! ### Literals -/

/-- A literal is read part by part. -/
theorem read?_eq {cs rest rest' whole fraction tail : List Char} {negative : Bool}
    (hsign : spanSign cs = (negative, rest)) (hwhole : spanDigits rest = (whole, rest'))
    (hpart : spanFraction rest' = (fraction, tail)) :
    Decimal.read? cs =
      if whole ++ fraction = [] then none
      else (readExponent? tail).map fun e =>
        ⟨negative, digitsValue (whole ++ fraction), e - fraction.length⟩ := by
  have hempty : (whole.isEmpty && fraction.isEmpty) = true ↔ whole ++ fraction = [] := by
    rw [Bool.and_eq_true, List.isEmpty_iff, List.isEmpty_iff, List.append_eq_nil_iff]
  have hparts : Decimal.read? cs =
      if ((spanDigits (spanSign cs).2).1.isEmpty &&
        (spanFraction (spanDigits (spanSign cs).2).2).1.isEmpty) = true then none
      else (readExponent? (spanFraction (spanDigits (spanSign cs).2).2).2).map fun e =>
        ⟨(spanSign cs).1, digitsValue ((spanDigits (spanSign cs).2).1 ++
          (spanFraction (spanDigits (spanSign cs).2).2).1),
          e - (spanFraction (spanDigits (spanSign cs).2).2).1.length⟩ := rfl
  rw [hparts, hsign, hwhole, hpart]
  simp only [hempty]

/-- **A text is read** if it is a literal, and then with the value of the literal. -/
theorem isDecimal_iff {cs : List Char} {x : ℚ} :
    IsDecimal cs x ↔ ∃ d, Decimal.read? cs = some d ∧ d.value = x := by
  constructor
  · rintro @⟨sign, whole, part, fraction, tail, negative, e, hsign, hwhole, hpart, htail, hne⟩
    have htailHead : ∀ c ∈ tail.head?, ¬ c.isDigit = true ∧ c ≠ '.' := by
      intro c hc
      rcases htail.head_eq c hc with rfl | rfl <;> decide
    have hpartHead : ∀ c ∈ (part ++ tail).head?, ¬ c.isDigit = true := by
      intro c hc
      cases hpart with
      | absent => exact (htailHead c hc).1
      | point _ =>
          obtain rfl := Option.some.inj hc
          decide
    have hwholeHead : ∀ c ∈ (whole ++ (part ++ tail)).head?, c ≠ '+' ∧ c ≠ '-' := by
      intro c hc
      cases whole with
      | cons d whole => exact hwhole.head_ne c hc
      | nil =>
          cases hpart with
          | absent => exact absurd rfl hne
          | point _ =>
              obtain rfl := Option.some.inj hc
              decide
    refine ⟨_, ?_, value_of_parts negative whole fraction e⟩
    rw [read?_eq (spanSign_append hsign hwholeHead) (spanDigits_append hwhole hpartHead)
      (spanFraction_append hpart htailHead), if_neg hne, readExponent?_eq_some_iff.2 htail]
    rfl
  · rintro ⟨d, hread, rfl⟩
    rcases hspan : spanSign cs with ⟨negative, rest⟩
    rcases hdigits : spanDigits rest with ⟨whole, rest'⟩
    rcases hfraction : spanFraction rest' with ⟨fraction, tail⟩
    rw [read?_eq hspan hdigits hfraction] at hread
    split at hread
    · cases hread
    · rename_i hne
      obtain ⟨e, he, rfl⟩ := Option.map_eq_some_iff.1 hread
      obtain ⟨sign, hsign, rfl⟩ := exists_isSign hspan
      obtain ⟨hwhole, rfl⟩ := allDigits_of_spanDigits hdigits
      obtain ⟨part, hpart, rfl⟩ := exists_isFraction hfraction
      rw [value_of_parts]
      exact .intro hsign hwhole hpart (readExponent?_eq_some_iff.1 he) hne

end Harvest.Number
