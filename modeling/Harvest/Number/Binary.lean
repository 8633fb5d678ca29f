/-!
# Binary Floating Point

Values of the binary floating-point formats, represented exactly: a finite value is an
integer significand times a power of two. No machine arithmetic is involved.

* `BinaryFormat.round` rounds a quotient of natural numbers to the nearest value of a
  format, a tie going to the even significand, and to infinity beyond the greatest value.
* `BinaryFormat.encode` gives the bits of a value.
-/

namespace Harvest.Number

/-- A binary floating-point value. -/
inductive Binary where
  /-- Not a number. -/
  | nan
  /-- An infinity. -/
  | infinite (negative : Bool)
  /-- The value `significand * 2 ^ exponent`, negated when `negative`. -/
  | finite (negative : Bool) (significand : Nat) (exponent : Int)
  deriving DecidableEq, Repr, Inhabited

/-- A binary floating-point format. -/
structure BinaryFormat where
  /-- The number of bits of a significand. -/
  precision : Nat
  /-- The number of bits of the exponent field. -/
  exponentBits : Nat
  deriving DecidableEq, Repr

namespace BinaryFormat

/-- The format of 32 bits. -/
def single : BinaryFormat := ⟨24, 8⟩

/-- The format of 64 bits. -/
def double : BinaryFormat := ⟨53, 11⟩

/-- Half the range of the exponent field. -/
def bias (f : BinaryFormat) : Nat :=
  Nat.pow 2 (f.exponentBits - 1) - 1

/-- The exponent of the least positive value. -/
def leastExponent (f : BinaryFormat) : Int :=
  2 - (f.bias : Int) - f.precision

/-- The exponent of the greatest finite value. -/
def greatestExponent (f : BinaryFormat) : Int :=
  (f.bias : Int) - f.precision + 1

/-- The greatest significand. -/
def greatestSignificand (f : BinaryFormat) : Nat :=
  Nat.pow 2 f.precision - 1

/-- The quotient `num / (den * 2 ^ e)` as a pair of natural numbers. -/
def scaled (num den : Nat) (e : Int) : Nat × Nat :=
  if 0 ≤ e then (num, den * Nat.pow 2 e.toNat) else (num * Nat.pow 2 (-e).toNat, den)

/-- The natural number nearest to a quotient, a tie going to the even one. -/
def nearestEven (num den : Nat) : Nat :=
  let q := num / den
  let r := num % den
  if 2 * r < den then q
  else if den < 2 * r then q + 1
  else if q % 2 = 0 then q else q + 1

/-- The exponent that gives the quotient of two positive numbers a significand of full
length, or the least exponent when that is greater. -/
def exponentFor (f : BinaryFormat) (num den : Nat) : Int :=
  let guess : Int := (num.log2 : Int) - den.log2 - f.precision
  let (n, d) := scaled num den guess
  let e := if n / d < Nat.pow 2 f.precision then guess else guess + 1
  max e f.leastExponent

/-- The value nearest to `num / den`, for a positive `den`. -/
def round (f : BinaryFormat) (negative : Bool) (num den : Nat) : Binary :=
  if num = 0 then .finite negative 0 f.leastExponent
  else
    let e := f.exponentFor num den
    let (n, d) := scaled num den e
    let m := nearestEven n d
    let (m, e) := if m = Nat.pow 2 f.precision then (m / 2, e + 1) else (m, e)
    if f.greatestExponent < e then .infinite negative else .finite negative m e

/-- The absolute value of a finite value as a quotient of natural numbers. -/
def quotient (significand : Nat) (exponent : Int) : Nat × Nat :=
  if 0 ≤ exponent then (significand * Nat.pow 2 exponent.toNat, 1)
  else (significand, Nat.pow 2 (-exponent).toNat)

/-- The value of another format nearest to a value. -/
def convert (f : BinaryFormat) : Binary → Binary
  | .nan => .nan
  | .infinite negative => .infinite negative
  | .finite negative m e =>
      let (num, den) := quotient m e
      f.round negative num den

/-- Whether the absolute value `m * 2 ^ e` is greater than every finite value. -/
def exceeds (f : BinaryFormat) (m : Nat) (e : Int) : Bool :=
  let (num, den) := quotient m e
  let (limit, one) := quotient f.greatestSignificand f.greatestExponent
  decide (limit * den < num * one)

/-- The bits of a value of the format: sign, exponent field and the significand without its
leading bit. -/
def encode (f : BinaryFormat) (b : Binary) : Nat :=
  let fieldWidth := f.precision - 1
  let sign (negative : Bool) : Nat :=
    if negative then Nat.pow 2 (fieldWidth + f.exponentBits) else 0
  let special := (Nat.pow 2 f.exponentBits - 1) * Nat.pow 2 fieldWidth
  match b with
  | .nan => special + Nat.pow 2 (fieldWidth - 1)
  | .infinite negative => sign negative + special
  | .finite negative m e =>
      let field := if m < Nat.pow 2 fieldWidth then 0 else (e - f.leastExponent + 1).toNat
      let fraction := if m < Nat.pow 2 fieldWidth then m else m - Nat.pow 2 fieldWidth
      sign negative + field * Nat.pow 2 fieldWidth + fraction

end BinaryFormat

end Harvest.Number
