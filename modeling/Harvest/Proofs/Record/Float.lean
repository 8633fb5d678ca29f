import Harvest.Proofs.Number.Decimal
import Harvest.Proofs.Record.Coercion

/-!
# Floating-Point Fields and the Range of 32 Bits

A field of 32 bits reads a decimal literal in two steps: the value is rounded to 64 bits, and the
result is refused if it is greater than all values of 32 bits. Between the two steps the value is
known only as a value of 64 bits. This has two consequences for the range.

The greatest value of 32 bits is one of 64 bits as well, and literals just above it are rounded to
it. They are refused from the middle between it and the next value of 64 bits on. At the other end,
a literal beyond the range of 64 bits is rounded to an infinity, which is no finite value, and only
finite ones are refused. So the literals that are refused are those between two limits, and beyond
the upper one an infinity is stored.

## Main results

* `FieldType.assign_within`: what a floating-point field in containers makes of a text.
* `single_field_of_decimal`: which decimal literals a field of 32 bits refuses, and what it holds
  after the others.
-/

namespace Harvest.Record

open Number

/-! ### Fields in containers -/

/-- What a field type can be put into. -/
inductive Container where
  /-- A list. -/
  | list
  /-- An option. -/
  | option

/-- A field type in containers, the outermost first. -/
def FieldType.within (t : FieldType) : List Container → FieldType
  | [] => t
  | .list :: nesting => .list (t.within nesting)
  | .option :: nesting => .option (t.within nesting)

/-- What a field in containers holds after it has got a value: a list goes on with one more item,
and an option holds an item in the place of the old one, where items are made from the default. -/
def FieldType.put (t : FieldType) :
    (nesting : List Container) → (t.within nesting).Value → t.Value → (t.within nesting).Value
  | [], _, value => value
  | .list :: nesting, old, value =>
      List.append old [t.put nesting (t.within nesting).default value]
  | .option :: nesting, _, value => some (t.put nesting (t.within nesting).default value)

/-- **A floating-point field** in containers reads every text as a floating-point number, and gets
it if there is one. -/
theorem FieldType.assign_within (size : FloatSize) (nesting : List Container)
    (old : ((FieldType.float size).within nesting).Value) (text : String) :
    ((FieldType.float size).within nesting).assign old text =
      (coerceFloat size text).map ((FieldType.float size).put nesting old) := by
  induction nesting with
  | nil =>
      change coerceFloat size text = _
      cases coerceFloat size text <;> rfl
  | cons container nesting ih =>
      cases container <;>
      · refine (congrArg (Except.map _) (ih _)).trans ?_
        cases coerceFloat size text <;> rfl

/-! ### The two limits -/

theorem two_pow_eq : (2 : ℚ) ^ 1024 = 2 ^ 54 * 2 ^ 970 :=
  pow_add 2 54 970

/-- The least number that double precision does not round to one of its own. -/
theorem limit_double : BinaryFormat.double.limit = 2 ^ 1024 - 2 ^ 970 := by
  have hgreatest : BinaryFormat.double.greatestExponent = (971 : Nat) := by decide
  have hprecision : BinaryFormat.double.precision = 53 := rfl
  have hlow : (2 : ℚ) ^ 971 = 2 * 2 ^ 970 := pow_succ' 2 970
  have hring : ∀ q : ℚ, (2 ^ 53 - 1 / 2) * (2 * q) = 2 ^ 54 * q - q := fun q => by ring
  rw [BinaryFormat.limit, hgreatest, hprecision, zpow_natCast, hlow, two_pow_eq]
  exact hring (2 ^ 970)

theorem lt_of_le_two_pow {q : ℚ} {n : Nat} (hn : n ≤ 970) (h : q ≤ 2 ^ n) :
    q < 2 ^ 1024 - 2 ^ 970 := by
  have hle : (2 : ℚ) ^ n ≤ 2 ^ 970 := pow_le_pow_right₀ one_le_two hn
  have hpos : (0 : ℚ) < 2 ^ 970 := by positivity
  rw [two_pow_eq]
  generalize (2 : ℚ) ^ 970 = limit at hle hpos ⊢
  linarith

/-- The limits are apart. -/
theorem limits_lt : (2 : ℚ) ^ 128 - 2 ^ 104 + 2 ^ 74 < 2 ^ 1024 - 2 ^ 970 :=
  lt_of_le_two_pow (n := 128) (by decide) (by norm_num)

/-- A value of 64 bits is greater than all values of 32 bits if the number that it was rounded from
is past the middle above the greatest one. -/
theorem exceeds_single_iff {negative negative' : Bool} {q : ℚ} {m : Nat} {e : Int}
    (h : BinaryFormat.double.RoundsTo negative q (.finite negative' m e)) :
    BinaryFormat.single.exceeds m e = true ↔ 2 ^ 128 - 2 ^ 104 + 2 ^ 74 < q := by
  cases h with
  | finite _ _ _ hlt =>
      -- The greatest value of 32 bits has an even significand as one of 64 bits.
      have hcanonical : BinaryFormat.double.IsCanonical ((2 ^ 24 - 1) * 2 ^ 29) 75 :=
        ⟨by decide, by decide, fun _ => by decide⟩
      have hgreatest :
          (BinaryFormat.single.greatestSignificand : ℚ) * 2 ^ BinaryFormat.single.greatestExponent =
            ((2 ^ 24 - 1) * 2 ^ 29 : Nat) * 2 ^ (75 : Int) := by
        have he : BinaryFormat.single.greatestExponent = (104 : Nat) := by decide
        have hprecision : BinaryFormat.single.precision = 24 := rfl
        rw [BinaryFormat.cast_greatestSignificand, he, hprecision, zpow_natCast,
          show (75 : Int) = (75 : Nat) from rfl, zpow_natCast]
        norm_num
      rw [BinaryFormat.exceeds_iff, hgreatest, hlt _ _ hcanonical,
        pastMiddle_iff_of_even (by decide), lt_div_iff₀ (by positivity)]
      norm_num

/-! ### Literals -/

/-- A decimal goes to single precision by way of double precision, and only a finite number can be
too large there. -/
theorem coerceFloat_single_of_read? {text : String} {d : Decimal}
    (h : Decimal.read? text.toList = some d) :
    coerceFloat .single text =
      match d.round .double with
      | .finite negative m e =>
          if BinaryFormat.single.exceeds m e then .error (.overflow text "f32")
          else .ok (BinaryFormat.single.convert (.finite negative m e))
      | other => .ok other := by
  rw [coerceFloat, BinaryFormat.read?, h]
  rfl

/-- **A decimal literal** is read as a finite value up to the first limit, refused as an overflow
between the limits, and read as an infinity from the second one on. -/
theorem coerceFloat_single_cases {text : String} {x : ℚ} (h : IsDecimal text.toList x) :
    (|x| ≤ 2 ^ 128 - 2 ^ 104 + 2 ^ 74 ∧
        ∃ negative m e, coerceFloat .single text = .ok (.finite negative m e)) ∨
      (2 ^ 128 - 2 ^ 104 + 2 ^ 74 < |x| ∧ |x| < 2 ^ 1024 - 2 ^ 970 ∧
        coerceFloat .single text = .error (.overflow text "f32")) ∨
      (2 ^ 1024 - 2 ^ 970 ≤ |x| ∧
        coerceFloat .single text = .ok (.infinite (decide (x < 0)))) := by
  obtain ⟨d, hread, rfl⟩ := isDecimal_iff.1 h
  have hround := d.round_roundsTo BinaryFormat.isProper_double
  rw [coerceFloat_single_of_read? hread, d.abs_value, ← limit_double]
  rcases hb : d.round .double with _ | negative | ⟨negative, m, e⟩ <;> rw [hb] at hround
  · cases hround
  · cases hround with
    | infinite hlimit =>
        have hpos : 0 < d.magnitude :=
          (BinaryFormat.isProper_double.lt_limit (by positivity)).trans_le hlimit
        refine .inr (.inr ⟨hlimit, ?_⟩)
        simp only [Decimal.value_lt_zero_iff hpos, Bool.decide_eq_true]
  · have hless : d.magnitude < BinaryFormat.double.limit := by
      cases hround with
      | finite hless _ _ _ => exact hless
    have hexceeds := exceeds_single_iff hround
    dsimp only
    split
    · rename_i htrue
      exact .inr (.inl ⟨hexceeds.1 htrue, hless, rfl⟩)
    · rename_i hfalse
      rw [Bool.not_eq_true] at hfalse
      obtain ⟨m', e', hconvert⟩ :=
        BinaryFormat.exists_convert_eq BinaryFormat.isProper_single negative hfalse
      refine .inl ⟨not_lt.1 fun hlt => ?_, negative, m', e', by rw [hconvert]⟩
      rw [hexceeds.2 hlt] at hfalse
      cases hfalse

/-- Words stand for no finite values. -/
theorem readWord?_ne_finite (cs : List Char) (negative : Bool) (m : Nat) (e : Int) :
    readWord? cs ≠ some (.finite negative m e) := by
  rw [readWord?]
  dsimp only
  split_ifs <;> nofun

/-- Only literals overflow. -/
theorem exists_isDecimal_of_overflow {text : String}
    (h : coerceFloat .single text = .error (.overflow text "f32")) :
    ∃ x, IsDecimal text.toList x := by
  rcases hread : Decimal.read? text.toList with _ | d
  · rw [coerceFloat, BinaryFormat.read?, hread] at h
    dsimp only at h
    rcases hword : readWord? text.toList with _ | _ | negative | ⟨negative, m, e⟩ <;>
      rw [hword] at h
    · cases h
    · cases h
    · cases h
    · exact absurd hword (readWord?_ne_finite _ _ _ _)
  · exact ⟨d.value, isDecimal_iff.2 ⟨d, hread, rfl⟩⟩

/-- The literals between the limits overflow, and no other texts. -/
theorem coerceFloat_single_eq_overflow_iff {text : String} :
    coerceFloat .single text = .error (.overflow text "f32") ↔
      ∃ x, IsDecimal text.toList x ∧ 2 ^ 128 - 2 ^ 104 + 2 ^ 74 < |x| ∧
        |x| < 2 ^ 1024 - 2 ^ 970 := by
  constructor
  · intro h
    obtain ⟨x, hx⟩ := exists_isDecimal_of_overflow h
    rcases coerceFloat_single_cases hx with ⟨-, _, _, _, hok⟩ | ⟨hlow, hhigh, -⟩ | ⟨-, hok⟩
    · rw [hok] at h
      cases h
    · exact ⟨x, hx, hlow, hhigh⟩
    · rw [hok] at h
      cases h
  · rintro ⟨x, hx, hlow, hhigh⟩
    rcases coerceFloat_single_cases hx with ⟨hle, -⟩ | ⟨-, -, herror⟩ | ⟨hle, -⟩
    · exact absurd hlow (not_lt.2 hle)
    · exact herror
    · exact absurd hhigh (not_lt.2 hle)

/-! ### The range -/

/-- **A field of 32 bits**, in lists and options as it may be, refuses a text as an overflow if and
only if it is a decimal literal whose absolute value is greater than the first limit and less than
the second one, and it is left as it was then. From the second limit on it gets an infinity with
the sign of the literal, and a finite value up to the first one. -/
theorem single_field_of_decimal (nesting : List Container)
    (old : ((FieldType.float .single).within nesting).Value) (text : String) :
    (((FieldType.float .single).within nesting).assignInPlace old text =
        (.error (.overflow text "f32"), old) ↔
      ∃ x, IsDecimal text.toList x ∧ 2 ^ 128 - 2 ^ 104 + 2 ^ 74 < |x| ∧
        |x| < 2 ^ 1024 - 2 ^ 970) ∧
    ∀ x, IsDecimal text.toList x →
      (2 ^ 1024 - 2 ^ 970 ≤ |x| →
        ((FieldType.float .single).within nesting).assignInPlace old text =
          (.ok (), (FieldType.float .single).put nesting old (.infinite (decide (x < 0))))) ∧
      (|x| ≤ 2 ^ 128 - 2 ^ 104 + 2 ^ 74 →
        ∃ negative m e, ((FieldType.float .single).within nesting).assignInPlace old text =
          (.ok (), (FieldType.float .single).put nesting old (.finite negative m e))) := by
  rw [FieldType.assignInPlace_eq, FieldType.assign_within]
  refine ⟨?_, fun x hx => ⟨fun hle => ?_, fun hle => ?_⟩⟩
  · rw [← coerceFloat_single_eq_overflow_iff]
    rcases coerceFloat .single text with e | value <;> simp [settle, Except.map]
  · rcases coerceFloat_single_cases hx with ⟨hlow, -⟩ | ⟨-, hhigh, -⟩ | ⟨-, hok⟩
    · exact absurd limits_lt (not_lt.2 (hle.trans hlow))
    · exact absurd hhigh (not_lt.2 hle)
    · rw [hok]
      rfl
  · rcases coerceFloat_single_cases hx with ⟨-, negative, m, e, hok⟩ | ⟨hlow, -⟩ | ⟨hhigh, -⟩
    · exact ⟨negative, m, e, by rw [hok]; rfl⟩
    · exact absurd hlow (not_lt.2 hle)
    · exact absurd limits_lt (not_lt.2 (hhigh.trans hle))

/-- The decimal is past the range of double precision. -/
theorem two_pow_le_magnitude (negative : Bool) :
    (2 : ℚ) ^ 1024 ≤ Decimal.magnitude ⟨negative, 1, 400⟩ := by
  have hle := Decimal.two_zpow_le_magnitude (d := ⟨negative, 1, 400⟩) one_ne_zero
    (show (0 : Int) ≤ 400 by decide)
  refine le_trans ?_ hle
  rw [← zpow_natCast]
  exact zpow_le_zpow_right₀ one_le_two (show (1024 : Int) ≤ 0 + 3 * 400 by decide)

/-- The theorem at a literal between the limits and one beyond them, for a list of options, and at
a literal just below the greatest value of 32 bits. -/
theorem single_field_of_decimal_list :
    ((FieldType.float .single).within [.list, .option]).assignInPlace [none] "-1e39" =
        (.error (.overflow "-1e39" "f32"), [none]) ∧
      ((FieldType.float .single).within [.list, .option]).assignInPlace [none] "-1e400" =
        (.ok (), [none, some (.infinite true)]) ∧
      ∃ negative m e,
        ((FieldType.float .single).within []).assignInPlace .nan "34028234.e31" =
          (.ok (), .finite negative m e) := by
  have hoverflow : IsDecimal "-1e39".toList (Decimal.value ⟨true, 1, 39⟩) :=
    isDecimal_iff.2 ⟨_, by decide +kernel, rfl⟩
  have hinfinite : IsDecimal "-1e400".toList (Decimal.value ⟨true, 1, 400⟩) :=
    isDecimal_iff.2 ⟨_, by decide +kernel, rfl⟩
  have hfinite : IsDecimal "34028234.e31".toList (Decimal.value ⟨false, 34028234, 31⟩) :=
    isDecimal_iff.2 ⟨_, by decide +kernel, rfl⟩
  refine ⟨?_, ?_, ?_⟩
  · refine (single_field_of_decimal [.list, .option] [none] "-1e39").1.2 ⟨_, hoverflow, ?_, ?_⟩
    · rw [Decimal.abs_value, Decimal.magnitude]
      norm_num
    · refine lt_of_le_two_pow (n := 130) (by decide) ?_
      rw [Decimal.abs_value, Decimal.magnitude]
      norm_num
  · have hlarge := two_pow_le_magnitude true
    have hnegative : Decimal.value ⟨true, 1, 400⟩ < 0 :=
      (Decimal.value_lt_zero_iff (lt_of_lt_of_le (by positivity) hlarge)).2 rfl
    have hle : (2 : ℚ) ^ 1024 - 2 ^ 970 ≤ |Decimal.value ⟨true, 1, 400⟩| := by
      rw [Decimal.abs_value]
      exact (sub_le_self _ (by positivity)).trans hlarge
    have h := ((single_field_of_decimal [.list, .option] [none] "-1e400").2 _ hinfinite).1 hle
    rwa [decide_eq_true hnegative] at h
  · refine ((single_field_of_decimal [] .nan "34028234.e31").2 _ hfinite).2 ?_
    rw [Decimal.abs_value, Decimal.magnitude]
    norm_num

/-- A literal beyond the range of both formats is stored as an infinity. -/
theorem infinite_of_decimal :
    ∃ x, IsDecimal "1e400".toList x ∧ 2 ^ 128 ≤ |x| ∧
      (FieldType.float .single).assignInPlace (FieldType.float .single).default "1e400" =
        (.ok (), .infinite false) := by
  refine ⟨Decimal.value ⟨false, 1, 400⟩, isDecimal_iff.2 ⟨_, by decide +kernel, rfl⟩, ?_,
    by decide +kernel⟩
  rw [Decimal.abs_value]
  exact (pow_le_pow_right₀ one_le_two (by decide)).trans (two_pow_le_magnitude false)

end Harvest.Record
