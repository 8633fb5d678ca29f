import Mathlib.Algebra.Order.Field.Power
import Mathlib.Data.Nat.Log
import Mathlib.Data.Rat.Cast.Order
import Mathlib.Tactic.Linarith
import Mathlib.Tactic.NormNum
import Mathlib.Tactic.Positivity
import Mathlib.Tactic.Ring
import Harvest.Number.Decimal

/-!
# Rounding

What rounding does to a number is said by comparison with the values of the format: the result is
greater than a value exactly if the number lies past the middle between this value and the next
one, where a number in the middle goes to the even significand. Beyond the middle between the
greatest value and the one that would come next, the result is an infinity.

Rounding takes the exponent that gives the number a significand of full length, and the exponent
of a value that it is compared with may be another one. If it is a smaller one, the number and
its result both lie above the value, and if it is a greater one, both lie at most at it. So
the middles matter only between values of the same exponent, and there a whole number is rounded.

## Main results

* `BinaryFormat.lt_nearest_iff`: which values of a format lie below the result.
* `BinaryFormat.round_roundsTo`: a quotient is rounded to the nearest value.
* `Decimal.round_roundsTo`: so is a decimal, however large its exponent.
-/

namespace Harvest.Number

/-! ### Middles -/

/-- A number that is rounded to a whole number gets more than `k`: it lies past the middle between
`k` and the next number, or just there if that one is even. -/
def PastMiddle (k : Nat) (q : ℚ) : Prop :=
  (k : ℚ) + 1 / 2 < q ∨ k % 2 = 1 ∧ (k : ℚ) + 1 / 2 = q

/-- A number past the middle is at least the middle. -/
theorem PastMiddle.le {k : Nat} {q : ℚ} (h : PastMiddle k q) : (k : ℚ) + 1 / 2 ≤ q := by
  rcases h with h | ⟨-, h⟩
  · exact h.le
  · exact h.le

/-- Below an odd number, the middle is past. -/
theorem pastMiddle_iff_of_odd {k : Nat} (hk : k % 2 = 1) {q : ℚ} :
    PastMiddle k q ↔ (k : ℚ) + 1 / 2 ≤ q := by
  rw [PastMiddle, le_iff_lt_or_eq, and_iff_right hk]

/-- Above an even number, the middle is not past. -/
theorem pastMiddle_iff_of_even {k : Nat} (hk : k % 2 = 0) {q : ℚ} :
    PastMiddle k q ↔ (k : ℚ) + 1 / 2 < q := by
  rw [PastMiddle, or_iff_left]
  omega

namespace BinaryFormat

/-- A quotient is rounded up if its remainder is past one half, or is one half and the quotient is
odd. -/
theorem nearestEven_eq (n d : Nat) :
    nearestEven n d =
      if d < 2 * (n % d) ∨ 2 * (n % d) = d ∧ n / d % 2 = 1 then n / d + 1 else n / d := by
  simp only [nearestEven]
  split_ifs <;> omega

/-- **Rounding to a whole number** gets past the numbers whose middle the quotient is past. -/
theorem lt_nearestEven_iff {n d : Nat} (hd : 0 < d) (k : Nat) :
    k < nearestEven n d ↔ PastMiddle k ((n : ℚ) / d) := by
  have hd' : (0 : ℚ) < d := Nat.cast_pos.2 hd
  have hn : d * (n / d) + n % d = n := Nat.div_add_mod n d
  have hr : n % d < d := Nat.mod_lt n hd
  have hlt : (k : ℚ) + 1 / 2 < (n : ℚ) / d ↔ (2 * k + 1) * d < 2 * n := by
    rw [lt_div_iff₀ hd', ← Nat.cast_lt (α := ℚ)]
    push_cast
    constructor <;> intro h <;> linarith
  have heq : (k : ℚ) + 1 / 2 = (n : ℚ) / d ↔ (2 * k + 1) * d = 2 * n := by
    rw [eq_div_iff hd'.ne', ← Nat.cast_inj (R := ℚ)]
    push_cast
    constructor <;> intro h <;> linarith
  rw [PastMiddle, hlt, heq, nearestEven_eq]
  generalize n / d = q at *
  generalize n % d = r at *
  -- Twice the number is compared with an odd multiple of the divisor.
  rcases lt_trichotomy k q with h | rfl | h
  · have hmul : (k + 1) * d ≤ q * d := Nat.mul_le_mul_right d h
    have hpast : (2 * k + 1) * d < 2 * n := by linarith
    simp only [hpast, true_or, iff_true]
    split <;> omega
  · have htwice : (2 * k + 1) * d + 2 * r = 2 * n + d := by linarith
    split <;> omega
  · have hmul : (q + 1) * d ≤ k * d := Nat.mul_le_mul_right d h
    have hnot : 2 * n < (2 * k + 1) * d := by linarith
    split <;> omega

/-! ### Exponents -/

/-- A power of two with a natural exponent, as a natural number and as a quotient. -/
theorem cast_pow_toNat {e : Int} (he : 0 ≤ e) : ((Nat.pow 2 e.toNat : Nat) : ℚ) = 2 ^ e := by
  rw [Nat.pow_eq, Nat.cast_pow, Nat.cast_ofNat, ← zpow_natCast, Int.toNat_of_nonneg he]

/-- A scaled denominator stays positive. -/
theorem scaled_pos {num den : Nat} (hden : 0 < den) (e : Int) : 0 < (scaled num den e).2 := by
  rw [scaled]
  split
  · exact Nat.mul_pos hden (Nat.pow_pos (by decide))
  · exact hden

/-- Scaling divides a quotient by the power of two. -/
theorem scaled_div (num den : Nat) (e : Int) :
    ((scaled num den e).1 : ℚ) / (scaled num den e).2 = (num : ℚ) / den / 2 ^ e := by
  rw [scaled]
  split
  · rename_i he
    rw [Nat.cast_mul, cast_pow_toNat he, div_div]
  · rename_i he
    rw [Nat.cast_mul, cast_pow_toNat (by omega), zpow_neg, ← div_eq_mul_inv, div_right_comm]

section

variable {f : BinaryFormat} {num den : Nat}

theorem zpow_sub_eq_div (i j : Nat) : (2 : ℚ) ^ ((i : Int) - j) = 2 ^ i / 2 ^ j := by
  rw [zpow_sub₀ two_ne_zero, zpow_natCast, zpow_natCast]

/-- Logarithms of a numerator and a denominator locate a quotient within a factor of four. -/
theorem log2_bounds (hnum : 0 < num) (hden : 0 < den) :
    (2 : ℚ) ^ ((num.log2 : Int) - den.log2 - 1) ≤ (num : ℚ) / den ∧
      (num : ℚ) / den < (2 : ℚ) ^ ((num.log2 : Int) - den.log2 + 1) := by
  have hnum₁ : ((2 ^ num.log2 : Nat) : ℚ) ≤ num := Nat.cast_le.2 (Nat.log2_self_le hnum.ne')
  have hnum₂ : (num : ℚ) < (2 ^ (num.log2 + 1) : Nat) := Nat.cast_lt.2 Nat.lt_log2_self
  have hden₁ : ((2 ^ den.log2 : Nat) : ℚ) ≤ den := Nat.cast_le.2 (Nat.log2_self_le hden.ne')
  have hden₂ : (den : ℚ) < (2 ^ (den.log2 + 1) : Nat) := Nat.cast_lt.2 Nat.lt_log2_self
  have hden' : (0 : ℚ) < den := Nat.cast_pos.2 hden
  push_cast at hnum₁ hnum₂ hden₁ hden₂
  constructor
  · rw [show (num.log2 : Int) - den.log2 - 1 = num.log2 - (den.log2 + 1 : Nat) by omega,
      zpow_sub_eq_div]
    gcongr
  · rw [show (num.log2 : Int) - den.log2 + 1 = (num.log2 + 1 : Nat) - den.log2 by omega,
      zpow_sub_eq_div]
    gcongr

/-- The exponent of a quotient is guessed from the lengths of its parts, and corrected by one if the
guess is too small. -/
theorem exponentFor_eq (f : BinaryFormat) (num den : Nat) {guess : Int}
    (h : (num.log2 : Int) - den.log2 - f.precision = guess) :
    f.exponentFor num den =
      max (if (scaled num den guess).1 / (scaled num den guess).2 < Nat.pow 2 f.precision then guess
        else guess + 1) f.leastExponent := by
  subst h
  rfl

/-- **The exponent** for a quotient: the quotient is less than the value that would need one bit
more, and the significand has its full length unless the exponent is the least one. -/
theorem exponentFor_spec (f : BinaryFormat) (hnum : 0 < num) (hden : 0 < den) :
    f.leastExponent ≤ f.exponentFor num den ∧
      (num : ℚ) / den < 2 ^ (f.precision + f.exponentFor num den) ∧
      (f.exponentFor num den ≠ f.leastExponent →
        (2 : ℚ) ^ (f.precision - 1 + f.exponentFor num den) ≤ (num : ℚ) / den) := by
  obtain ⟨hlow, hhigh⟩ := log2_bounds hnum hden
  obtain ⟨guess, hguess⟩ : ∃ guess : Int, (num.log2 : Int) - den.log2 - f.precision = guess :=
    ⟨_, rfl⟩
  rw [show (num.log2 : Int) - den.log2 = f.precision + guess by omega] at hlow hhigh
  have hfits : (scaled num den guess).1 / (scaled num den guess).2 < Nat.pow 2 f.precision ↔
      (num : ℚ) / den < 2 ^ (f.precision + guess) := by
    rw [Nat.div_lt_iff_lt_mul (scaled_pos hden guess), ← Nat.cast_lt (α := ℚ), Nat.cast_mul,
      ← div_lt_iff₀ (Nat.cast_pos.2 (scaled_pos hden guess)), scaled_div, Nat.pow_eq,
      div_lt_iff₀ (zpow_pos two_pos guess), zpow_add₀ two_ne_zero]
    push_cast
    rfl
  -- The guess is right or too small by one, and its quotient tells.
  obtain ⟨e, he, hlt, hle⟩ : ∃ e : Int, f.exponentFor num den = max e f.leastExponent ∧
      (num : ℚ) / den < 2 ^ (f.precision + e) ∧
      (2 : ℚ) ^ (f.precision - 1 + e) ≤ (num : ℚ) / den := by
    by_cases hless : (num : ℚ) / den < 2 ^ (f.precision + guess)
    · refine ⟨guess, ?_, hless, ?_⟩
      · rw [exponentFor_eq f num den hguess, if_pos (hfits.2 hless)]
      · rwa [show (f.precision : Int) - 1 + guess = f.precision + guess - 1 by ring]
    · refine ⟨guess + 1, ?_, ?_, ?_⟩
      · rw [exponentFor_eq f num den hguess, if_neg (mt hfits.1 hless)]
      · rwa [← add_assoc]
      · rw [show (f.precision : Int) - 1 + (guess + 1) = f.precision + guess by ring]
        exact not_lt.1 hless
  rw [he]
  refine ⟨le_max_right _ _, hlt.trans_le (zpow_le_zpow_right₀ one_le_two ?_), fun hne => ?_⟩
  · exact Int.add_le_add_left (le_max_left e f.leastExponent) _
  · rwa [max_eq_left (by omega)]

/-! ### Formats -/

/-- A format has significands and exponents. -/
structure IsProper (f : BinaryFormat) : Prop where
  /-- A significand has a bit. -/
  precision_pos : 0 < f.precision
  /-- The least exponent is not greater than the greatest one. -/
  least_le_greatest : f.leastExponent ≤ f.greatestExponent

/-- Single precision is a proper format. -/
theorem isProper_single : single.IsProper :=
  ⟨by decide, by decide⟩

/-- Double precision is a proper format. -/
theorem isProper_double : double.IsProper :=
  ⟨by decide, by decide⟩

/-- A significand may have one bit or more, so its range can be halved. -/
theorem IsProper.exists_pow_eq (hf : f.IsProper) :
    ∃ half, 0 < half ∧ 2 ^ f.precision = 2 * half := by
  obtain ⟨n, hn⟩ := Nat.exists_eq_succ_of_ne_zero hf.precision_pos.ne'
  exact ⟨2 ^ n, Nat.pow_pos (by decide), by rw [hn, pow_succ']⟩

/-! ### Significands -/

/-- A significand and an exponent are those of a value, if the greatest exponent is left aside:
the significand is of full length unless the exponent is the least one. -/
structure IsCanonical (f : BinaryFormat) (m : Nat) (e : Int) : Prop where
  /-- The significand is not too long. -/
  lt_pow : m < 2 ^ f.precision
  /-- The exponent is not too small. -/
  least_le : f.leastExponent ≤ e
  /-- The significand has its full length. -/
  pow_le : e ≠ f.leastExponent → 2 ^ f.precision ≤ 2 * m

/-- The significand that a quotient is rounded to. -/
def significand (f : BinaryFormat) (num den : Nat) : Nat :=
  nearestEven (scaled num den (f.exponentFor num den)).1
    (scaled num den (f.exponentFor num den)).2

/-- What a quotient is rounded to if the greatest exponent is left aside. -/
def nearest (f : BinaryFormat) (num den : Nat) : ℚ :=
  f.significand num den * 2 ^ f.exponentFor num den

/-- The significand is past a number if and only if the scaled quotient is past the middle behind
it. -/
theorem lt_significand_iff (f : BinaryFormat) (num : Nat) (hden : 0 < den) (k : Nat) :
    k < f.significand num den ↔
      PastMiddle k ((num : ℚ) / den / 2 ^ f.exponentFor num den) := by
  rw [significand, lt_nearestEven_iff (scaled_pos hden _), scaled_div]

/-- A significand may be rounded to the first number that is too long. -/
theorem significand_le (f : BinaryFormat) (hnum : 0 < num) (hden : 0 < den) :
    f.significand num den ≤ 2 ^ f.precision := by
  refine Nat.le_of_not_lt fun hlt => ?_
  have hmiddle := ((lt_significand_iff f num hden _).1 hlt).le
  have hless := (exponentFor_spec f hnum hden).2.1
  rw [zpow_add₀ two_ne_zero, ← div_lt_iff₀ (zpow_pos two_pos _), zpow_natCast] at hless
  push_cast at hmiddle
  linarith

/-- A significand is of full length unless the exponent is the least one. -/
theorem pow_le_significand (hf : f.IsProper) (hnum : 0 < num) (hden : 0 < den)
    (he : f.exponentFor num den ≠ f.leastExponent) :
    2 ^ f.precision ≤ 2 * f.significand num den := by
  have hle := (exponentFor_spec f hnum hden).2.2 he
  rw [zpow_add₀ two_ne_zero, ← le_div_iff₀ (zpow_pos two_pos _), zpow_sub_one₀ two_ne_zero,
    zpow_natCast] at hle
  -- The significand is rounded from a number that is large enough, so it is at most half less.
  have hmiddle : (num : ℚ) / den / 2 ^ f.exponentFor num den ≤ f.significand num den + 1 / 2 := by
    by_contra hlt
    exact lt_irrefl _ ((lt_significand_iff f num hden _).2 (.inl (not_le.1 hlt)))
  have hodd : ((2 ^ f.precision : Nat) : ℚ) ≤ (2 * f.significand num den + 1 : Nat) := by
    push_cast
    linarith
  obtain ⟨half, -, hpow⟩ := hf.exists_pow_eq
  have hnat := Nat.cast_le.1 hodd
  omega

/-- Rounding does not pass the next power of two. -/
theorem nearest_le (f : BinaryFormat) (hnum : 0 < num) (hden : 0 < den) :
    f.nearest num den ≤ 2 ^ (f.precision + f.exponentFor num den) := by
  have hle : (f.significand num den : ℚ) ≤ (2 ^ f.precision : Nat) :=
    Nat.cast_le.2 (significand_le f hnum hden)
  rw [nearest, zpow_add₀ two_ne_zero, zpow_natCast]
  push_cast at hle
  gcongr

/-! ### Comparison with the values of a format -/

/-- A significand of full length makes a value no smaller than those of a smaller exponent. -/
theorem pow_le_mul_zpow {m : Nat} {e i : Int} (hm : 2 ^ f.precision ≤ 2 * m) (hlt : i < e) :
    (2 : ℚ) ^ (f.precision + i) ≤ m * 2 ^ e := by
  have hm' : ((2 ^ f.precision : Nat) : ℚ) ≤ (2 * m : Nat) := Nat.cast_le.2 hm
  have hstep : (2 : ℚ) ^ (i + 1) ≤ 2 ^ e := zpow_le_zpow_right₀ one_le_two (by omega)
  push_cast at hm'
  calc (2 : ℚ) ^ (f.precision + i) = 2 ^ f.precision * 2 ^ i := by
        rw [zpow_add₀ two_ne_zero, zpow_natCast]
    _ ≤ 2 * m * 2 ^ i := by gcongr
    _ = m * 2 ^ (i + 1) := by
        rw [zpow_add_one₀ two_ne_zero]
        ring
    _ ≤ m * 2 ^ e := by gcongr

/-- The middle above a value lies below the first value of full length that is one longer. -/
theorem IsCanonical.middle_lt {k : Nat} {i : Int} (h : f.IsCanonical k i) :
    ((k : ℚ) + 1 / 2) * 2 ^ i < 2 ^ (f.precision + i) := by
  have hk : ((k + 1 : Nat) : ℚ) ≤ (2 ^ f.precision : Nat) := Nat.cast_le.2 h.lt_pow
  push_cast at hk
  rw [zpow_add₀ two_ne_zero, zpow_natCast]
  gcongr
  linarith

/-- **Which values lie below** what a quotient is rounded to: those whose middle it is past. -/
theorem lt_nearest_iff (hf : f.IsProper) (hnum : 0 < num) (hden : 0 < den) {k : Nat}
    {i : Int} (h : f.IsCanonical k i) :
    (k : ℚ) * 2 ^ i < f.nearest num den ↔ PastMiddle k ((num : ℚ) / den / 2 ^ i) := by
  obtain ⟨hleast, hless, hfull⟩ := exponentFor_spec f hnum hden
  have hpos : (0 : ℚ) < 2 ^ i := zpow_pos two_pos i
  have hk : (k : ℚ) * 2 ^ i < ((k : ℚ) + 1 / 2) * 2 ^ i := by
    gcongr
    linarith
  rcases lt_trichotomy i (f.exponentFor num den) with hlt | rfl | hgt
  · -- The quotient and its rounding have more digits before the point.
    have hne : f.exponentFor num den ≠ f.leastExponent := by
      have := h.least_le
      omega
    have hvalue := pow_le_mul_zpow (pow_le_significand hf hnum hden hne) hlt
    have hquotient : (2 : ℚ) ^ (f.precision + i) ≤ (num : ℚ) / den :=
      (zpow_le_zpow_right₀ one_le_two (by omega)).trans (hfull hne)
    refine iff_of_true (hk.trans (h.middle_lt.trans_le hvalue)) (.inl ?_)
    rw [lt_div_iff₀ hpos]
    exact h.middle_lt.trans_le hquotient
  · rw [nearest, mul_lt_mul_iff_of_pos_right hpos, Nat.cast_lt, lt_significand_iff f num hden]
  · have hvalue := pow_le_mul_zpow (h.pow_le (by omega)) hgt
    refine iff_of_false (not_lt.2 ((nearest_le f hnum hden).trans hvalue)) fun hmiddle => ?_
    have hle := (le_div_iff₀ hpos).1 hmiddle.le
    linarith

/-! ### The range of a format -/

/-- The middle between the greatest finite value of a format and the one that would come next. -/
def limit (f : BinaryFormat) : ℚ :=
  (2 ^ f.precision - 1 / 2) * 2 ^ f.greatestExponent

/-- All bits of the greatest significand are set. -/
theorem cast_greatestSignificand (f : BinaryFormat) :
    (f.greatestSignificand : ℚ) = 2 ^ f.precision - 1 := by
  rw [greatestSignificand, Nat.pow_eq, Nat.cast_pred (Nat.pow_pos (by decide))]
  push_cast
  rfl

/-- The greatest number of a format is one of its numbers. -/
theorem IsProper.isCanonical_greatest (hf : f.IsProper) :
    f.IsCanonical f.greatestSignificand f.greatestExponent := by
  obtain ⟨half, hhalf, hpow⟩ := hf.exists_pow_eq
  refine ⟨?_, hf.least_le_greatest, fun _ => ?_⟩ <;> rw [greatestSignificand, Nat.pow_eq] <;> omega

/-- The limit is the middle above the greatest finite value, and a number there is past it. -/
theorem IsProper.limit_le_iff (hf : f.IsProper) {q : ℚ} :
    f.limit ≤ q ↔ PastMiddle f.greatestSignificand (q / 2 ^ f.greatestExponent) := by
  have hodd : f.greatestSignificand % 2 = 1 := by
    obtain ⟨half, hhalf, hpow⟩ := hf.exists_pow_eq
    rw [greatestSignificand, Nat.pow_eq]
    omega
  rw [pastMiddle_iff_of_odd hodd, cast_greatestSignificand,
    le_div_iff₀ (zpow_pos two_pos _), limit]
  ring_nf

/-- A value is greater than the greatest finite one if its exponent is greater. -/
theorem IsCanonical.greatest_lt_iff (hf : f.IsProper) {m : Nat} {e : Int}
    (h : f.IsCanonical m e) :
    (f.greatestSignificand : ℚ) * 2 ^ f.greatestExponent < m * 2 ^ e ↔
      f.greatestExponent < e := by
  have hleast := hf.least_le_greatest
  constructor
  · refine fun hlt => Int.not_le.1 fun hle => not_le.2 hlt ?_
    have hm : (m : ℚ) ≤ f.greatestSignificand :=
      Nat.cast_le.2 (by rw [greatestSignificand, Nat.pow_eq]; exact Nat.le_pred_of_lt h.lt_pow)
    gcongr
    exact one_le_two
  · intro hlt
    have hpos : (0 : ℚ) < 2 ^ f.greatestExponent := zpow_pos two_pos _
    refine lt_of_lt_of_le ?_ (pow_le_mul_zpow (h.pow_le (by omega)) hlt)
    rw [zpow_add₀ two_ne_zero, zpow_natCast, cast_greatestSignificand]
    gcongr
    linarith

/-! ### Rounding -/

/-- **What rounding makes of a number** that is not negative: from the limit on an infinity, and
otherwise the value that is greater than another one exactly if the number is past its middle. -/
inductive RoundsTo (f : BinaryFormat) (negative : Bool) (q : ℚ) : Binary → Prop
  /-- A number beyond the range. -/
  | infinite (h : f.limit ≤ q) : RoundsTo f negative q (.infinite negative)
  /-- A number in the range. -/
  | finite {m : Nat} {e : Int} (h : q < f.limit) (hcanonical : f.IsCanonical m e)
      (hle : e ≤ f.greatestExponent)
      (hlt : ∀ k i, f.IsCanonical k i →
        ((k : ℚ) * 2 ^ i < m * 2 ^ e ↔ PastMiddle k (q / 2 ^ i))) :
      RoundsTo f negative q (.finite negative m e)

/-- A significand that became too long is halved. -/
theorem round_eq (f : BinaryFormat) (negative : Bool) (den : Nat) (hnum : 0 < num) :
    f.round negative num den =
      if f.significand num den = 2 ^ f.precision then
        if f.greatestExponent < f.exponentFor num den + 1 then .infinite negative
        else .finite negative (f.significand num den / 2) (f.exponentFor num den + 1)
      else if f.greatestExponent < f.exponentFor num den then .infinite negative
      else .finite negative (f.significand num den) (f.exponentFor num den) := by
  rw [round, if_neg hnum.ne']
  by_cases h : f.significand num den = 2 ^ f.precision
  · rw [if_pos h]
    simp only [significand] at h ⊢
    simp only [h, Nat.pow_eq, if_true]
  · rw [if_neg h]
    simp only [significand] at h ⊢
    simp only [h, Nat.pow_eq, if_false]

/-- Rounding makes a value, if the greatest exponent is left aside. -/
theorem exists_round_eq (hf : f.IsProper) (negative : Bool) (hnum : 0 < num) (hden : 0 < den) :
    ∃ m e, f.IsCanonical m e ∧ (m : ℚ) * 2 ^ e = f.nearest num den ∧
      f.round negative num den =
        if f.greatestExponent < e then .infinite negative else .finite negative m e := by
  have hleast := (exponentFor_spec f hnum hden).1
  have hle := significand_le f hnum hden
  by_cases hcarry : f.significand num den = 2 ^ f.precision
  · obtain ⟨half, hpos, hpow⟩ := hf.exists_pow_eq
    have hhalf : 2 * (f.significand num den / 2) = f.significand num den := by omega
    refine ⟨f.significand num den / 2, f.exponentFor num den + 1, ⟨by omega, by omega, ?_⟩, ?_, ?_⟩
    · intro _
      omega
    · have hcast : ((2 * (f.significand num den / 2) : Nat) : ℚ) = f.significand num den := by
        rw [hhalf]
      push_cast at hcast
      rw [nearest, ← hcast, zpow_add_one₀ two_ne_zero]
      ring
    · rw [round_eq f negative den hnum, if_pos hcarry]
  · refine ⟨f.significand num den, f.exponentFor num den, ⟨by omega, hleast, ?_⟩, rfl, ?_⟩
    · exact pow_le_significand hf hnum hden
    · rw [round_eq f negative den hnum, if_neg hcarry]

/-- Half the least positive value is in the range. -/
theorem IsProper.lt_limit (hf : f.IsProper) {q : ℚ} (h : q ≤ 2 ^ f.leastExponent / 2) :
    q < f.limit := by
  have hle : (2 : ℚ) ^ f.leastExponent ≤ 2 ^ f.greatestExponent :=
    zpow_le_zpow_right₀ one_le_two hf.least_le_greatest
  have htwo : (2 : ℚ) ^ 1 ≤ 2 ^ f.precision := pow_le_pow_right₀ one_le_two hf.precision_pos
  have hpos : (0 : ℚ) < 2 ^ f.greatestExponent := zpow_pos two_pos _
  have hlimit : 1 * 2 ^ f.greatestExponent ≤ f.limit := by
    rw [limit]
    gcongr
    linarith
  linarith

/-- A number of at most half the least positive value is rounded to zero. -/
theorem roundsTo_zero (hf : f.IsProper) (negative : Bool) {q : ℚ}
    (h : q ≤ 2 ^ f.leastExponent / 2) :
    f.RoundsTo negative q (.finite negative 0 f.leastExponent) := by
  refine .finite (hf.lt_limit h) ⟨Nat.pow_pos (by decide), le_refl _, fun hne => absurd rfl hne⟩
    hf.least_le_greatest fun k i hk => ?_
  have hpos : (0 : ℚ) < 2 ^ i := zpow_pos two_pos i
  have hle : q ≤ 1 / 2 * 2 ^ i := by
    have hpow : (2 : ℚ) ^ f.leastExponent ≤ 2 ^ i := zpow_le_zpow_right₀ one_le_two hk.least_le
    linarith
  rw [Nat.cast_zero, zero_mul]
  refine iff_of_false (not_lt.2 (by positivity)) fun hmiddle => ?_
  -- Only the middle above zero is not greater, and zero is even.
  rcases hmiddle with hlt | ⟨hodd, heq⟩
  · rw [lt_div_iff₀ hpos] at hlt
    have hnonneg : (0 : ℚ) ≤ k * 2 ^ i := by positivity
    linarith
  · rw [eq_div_iff hpos.ne'] at heq
    have hk : 0 < (k : ℚ) * 2 ^ i := mul_pos (Nat.cast_pos.2 (by omega)) hpos
    linarith

/-- **A quotient is rounded** to the nearest value. -/
theorem round_roundsTo (hf : f.IsProper) (negative : Bool) (num : Nat) (hden : 0 < den) :
    f.RoundsTo negative ((num : ℚ) / den) (f.round negative num den) := by
  rcases Nat.eq_zero_or_pos num with rfl | hnum
  · rw [round, if_pos rfl, Nat.cast_zero, zero_div]
    exact roundsTo_zero hf negative (by positivity)
  · obtain ⟨m, e, hcanonical, hvalue, hround⟩ := exists_round_eq hf negative hnum hden
    have hlimit : f.limit ≤ (num : ℚ) / den ↔ f.greatestExponent < e := by
      rw [hf.limit_le_iff, ← lt_nearest_iff hf hnum hden hf.isCanonical_greatest,
        ← hvalue, hcanonical.greatest_lt_iff hf]
    rw [hround]
    split
    · rename_i hlt
      exact .infinite (hlimit.2 hlt)
    · rename_i hnot
      refine .finite (not_le.1 (mt hlimit.1 hnot)) hcanonical (not_lt.1 hnot) fun k i hk => ?_
      rw [hvalue, lt_nearest_iff hf hnum hden hk]

/-! ### Values of another format -/

theorem quotient_pos (m : Nat) (e : Int) : 0 < (quotient m e).2 := by
  rw [quotient]
  split
  · exact Nat.one_pos
  · exact Nat.pow_pos (by decide)

/-- A significand and an exponent stand for the quotient they are turned into. -/
theorem quotient_div (m : Nat) (e : Int) :
    ((quotient m e).1 : ℚ) / (quotient m e).2 = m * 2 ^ e := by
  rw [quotient]
  split
  · rename_i he
    rw [Nat.cast_mul, cast_pow_toNat he, Nat.cast_one, div_one]
  · rename_i he
    rw [cast_pow_toNat (by omega), zpow_neg, div_inv_eq_mul]

/-- The check of the range compares with the greatest finite value. -/
theorem exceeds_iff (m : Nat) (e : Int) :
    f.exceeds m e = true ↔ (f.greatestSignificand : ℚ) * 2 ^ f.greatestExponent < m * 2 ^ e := by
  have hpos := quotient_pos f.greatestSignificand f.greatestExponent
  have hpos' := quotient_pos m e
  rw [← quotient_div, ← quotient_div, div_lt_div_iff₀ (Nat.cast_pos.2 hpos) (Nat.cast_pos.2 hpos'),
    ← Nat.cast_mul, ← Nat.cast_mul, Nat.cast_lt]
  exact decide_eq_true_iff

/-- A value that passes the check of the range is rounded to a finite one. -/
theorem exists_convert_eq (hf : f.IsProper) (negative : Bool) {m : Nat} {e : Int}
    (h : f.exceeds m e = false) :
    ∃ m' e', f.convert (.finite negative m e) = .finite negative m' e' := by
  have hround := round_roundsTo hf negative (quotient m e).1 (quotient_pos m e)
  rw [quotient_div] at hround
  have hle : (m : ℚ) * 2 ^ e ≤ f.greatestSignificand * 2 ^ f.greatestExponent := by
    rw [← not_lt, ← exceeds_iff, h]
    exact Bool.false_ne_true
  have hlimit : (f.greatestSignificand : ℚ) * 2 ^ f.greatestExponent < f.limit := by
    have hpos : (0 : ℚ) < 2 ^ f.greatestExponent := zpow_pos two_pos _
    rw [cast_greatestSignificand, limit]
    gcongr
    norm_num
  rw [convert]
  dsimp only
  generalize f.round negative (quotient m e).1 (quotient m e).2 = b at hround
  cases hround with
  | infinite hbeyond => exact absurd (hlimit.trans_le hbeyond) (not_lt.2 hle)
  | finite => exact ⟨_, _, rfl⟩

end

end BinaryFormat

/-! ### Decimals -/

namespace Decimal

/-- The absolute value of a decimal. -/
def magnitude (d : Decimal) : ℚ :=
  d.digits * 10 ^ d.exponent

/-- A power of eight is not greater than that of ten. -/
theorem two_zpow_le {n : Int} (hn : 0 ≤ n) : (2 : ℚ) ^ (3 * n) ≤ 10 ^ n := by
  rw [zpow_mul]
  exact zpow_le_zpow_left₀ hn (by norm_num) (by norm_num)

/-- A lower bound for decimals with an exponent that is not negative. -/
theorem two_zpow_le_magnitude {d : Decimal} (hdigits : d.digits ≠ 0) (he : 0 ≤ d.exponent) :
    (2 : ℚ) ^ (d.digits.log2 + 3 * d.exponent) ≤ d.magnitude := by
  have hlog : ((2 ^ d.digits.log2 : Nat) : ℚ) ≤ d.digits :=
    Nat.cast_le.2 (Nat.log2_self_le hdigits)
  push_cast at hlog
  rw [zpow_add₀ two_ne_zero, zpow_natCast, magnitude]
  gcongr
  exact two_zpow_le he

/-- An upper bound for decimals with a negative exponent. -/
theorem magnitude_lt_two_zpow {d : Decimal} (he : d.exponent < 0) :
    d.magnitude < 2 ^ (d.digits.log2 + 3 * d.exponent + 1) := by
  have hlog : (d.digits : ℚ) < (2 ^ (d.digits.log2 + 1) : Nat) := Nat.cast_lt.2 Nat.lt_log2_self
  have hpow : (10 : ℚ) ^ d.exponent ≤ 2 ^ (3 * d.exponent) := by
    have hle := two_zpow_le (n := -d.exponent) (by omega)
    rw [mul_neg, zpow_neg, zpow_neg] at hle
    exact (inv_le_inv₀ (by positivity) (by positivity)).1 hle
  push_cast at hlog
  calc d.magnitude ≤ d.digits * 2 ^ (3 * d.exponent) := by
        rw [magnitude]
        gcongr
    _ < 2 ^ (d.digits.log2 + 1) * 2 ^ (3 * d.exponent) := by gcongr
    _ = 2 ^ (d.digits.log2 + 3 * d.exponent + 1) := by
        rw [← zpow_natCast, ← zpow_add₀ two_ne_zero]
        congr 1
        push_cast
        ring

/-- **A decimal is rounded** to the nearest value. -/
theorem round_roundsTo {f : BinaryFormat} (hf : f.IsProper) (d : Decimal) :
    f.RoundsTo d.negative d.magnitude (d.round f) := by
  rw [Decimal.round]
  split
  · rename_i hzero
    rw [magnitude, hzero, Nat.cast_zero, zero_mul]
    exact BinaryFormat.roundsTo_zero hf d.negative (by positivity)
  rename_i hdigits
  dsimp only
  split
  · rename_i he
    split
    · rename_i hlarge
      -- The number is at least the power of two that is too large for the format.
      refine .infinite ?_
      calc f.limit ≤ 2 ^ f.precision * 2 ^ f.greatestExponent := by
            rw [BinaryFormat.limit]
            gcongr
            linarith
        _ = 2 ^ (f.greatestExponent + f.precision) := by
            rw [zpow_add₀ two_ne_zero, zpow_natCast, mul_comm]
        _ ≤ 2 ^ (d.digits.log2 + 3 * d.exponent) := zpow_le_zpow_right₀ one_le_two hlarge
        _ ≤ d.magnitude := two_zpow_le_magnitude hdigits he
    · have hround := BinaryFormat.round_roundsTo hf d.negative
        (d.digits * Nat.pow 10 d.exponent.toNat) Nat.one_pos
      rwa [Nat.cast_one, div_one, Nat.cast_mul, Nat.pow_eq, Nat.cast_pow, Nat.cast_ofNat,
        ← zpow_natCast, Int.toNat_of_nonneg he] at hround
  · rename_i he
    split
    · rename_i hsmall
      -- The number is at most half the least positive value.
      refine BinaryFormat.roundsTo_zero hf d.negative ?_
      calc d.magnitude ≤ 2 ^ (d.digits.log2 + 3 * d.exponent + 1) :=
            (magnitude_lt_two_zpow (by omega)).le
        _ ≤ 2 ^ (f.leastExponent - 1) := zpow_le_zpow_right₀ one_le_two (by omega)
        _ = 2 ^ f.leastExponent / 2 := zpow_sub_one₀ two_ne_zero _
    · have hround := BinaryFormat.round_roundsTo hf d.negative d.digits
        (Nat.pow_pos (n := (-d.exponent).toNat) (show 0 < 10 by decide))
      rwa [Nat.cast_pow, Nat.cast_ofNat, ← zpow_natCast, Int.toNat_of_nonneg (by omega), zpow_neg,
        div_inv_eq_mul] at hround

end Decimal

end Harvest.Number
