import Harvest.Number.Binary

/-!
# The Shortest Decimal of a Floating-Point Value

Among the decimals that a format rounds to a given value, the shortest are those with the
fewest digits, and of these the nearest is chosen. The search goes through the grids of
`1, 2, … 17` digits and tests the two neighbours of the value on each grid.

`Binary.positional` writes that decimal without an exponent, however long it gets.
-/

namespace Harvest.Number

/-- The interval of values that round to `m * 2 ^ e`, over a common denominator: lower end,
value, upper end, denominator, and whether the ends belong to it. -/
structure RoundingInterval where
  /-- The numerator of the lower end. -/
  lower : Nat
  /-- The numerator of the value. -/
  value : Nat
  /-- The numerator of the upper end. -/
  upper : Nat
  /-- The common denominator. -/
  denominator : Nat
  /-- Whether the two ends round to the value. -/
  closed : Bool

/-- The rounding interval of a positive value. The lower neighbour of the least full
significand is only half as far as the upper one. -/
def RoundingInterval.of (f : BinaryFormat) (m : Nat) (e : Int) : RoundingInterval :=
  let below := if m = Nat.pow 2 (f.precision - 1) ∧ f.leastExponent < e then 1 else 2
  let (scale, den) := BinaryFormat.quotient 1 (e - 2)
  ⟨(4 * m - below) * scale, 4 * m * scale, (4 * m + 2) * scale, den, m % 2 = 0⟩

/-- Whether `n * 10 ^ k` lies in the interval. -/
def RoundingInterval.holds (i : RoundingInterval) (n : Nat) (k : Int) : Bool :=
  let (num, den) := if 0 ≤ k then (n * Nat.pow 10 k.toNat, 1) else (n, Nat.pow 10 (-k).toNat)
  let x := num * i.denominator
  if i.closed then decide (i.lower * den ≤ x ∧ x ≤ i.upper * den)
  else decide (i.lower * den < x ∧ x < i.upper * den)

/-- The decimal `n * 10 ^ k` of the grid of spacing `10 ^ k` that lies in the interval and
is nearest to its value. -/
def RoundingInterval.onGrid? (i : RoundingInterval) (k : Int) : Option Nat :=
  let (num, den) :=
    if 0 ≤ k then (i.value, i.denominator * Nat.pow 10 k.toNat)
    else (i.value * Nat.pow 10 (-k).toNat, i.denominator)
  let low := num / den
  let remainder := num % den
  let near := if den < 2 * remainder then low + 1
    else if 2 * remainder < den then low
    else if low % 2 = 0 then low else low + 1
  let far := if near = low then low + 1 else low
  if i.holds near k then some near
  else if i.holds far k then some far
  else none

/-- Tries grids of spacing `10 ^ k`, `10 ^ (k - 1)` and so on. -/
def RoundingInterval.shortestFrom (i : RoundingInterval) : (fuel : Nat) → Int → Nat × Int
  | 0, k => (i.value / i.denominator, k)
  | fuel + 1, k =>
      match i.onGrid? k with
      | some n => if n = 0 then i.shortestFrom fuel (k - 1) else (n, k)
      | none => i.shortestFrom fuel (k - 1)

/-- The digits of the shortest decimal of a positive value and its power of ten. -/
def shortest (f : BinaryFormat) (m : Nat) (e : Int) : Nat × Int :=
  let i := RoundingInterval.of f m e
  let leading : Int := ((m.log2 : Int) + e) * 30103 / 100000 + 1
  i.shortestFrom 24 leading

/-- Drops the zeros at the end of a positive number's digits. -/
def dropZeros : (fuel n : Nat) → Int → Nat × Int
  | 0, n, k => (n, k)
  | fuel + 1, n, k => if n % 10 = 0 then dropZeros fuel (n / 10) (k + 1) else (n, k)

/-- Writes `n * 10 ^ k` without an exponent. -/
def positionalDigits (n : Nat) (k : Int) : String :=
  let digits := (toString n).toList
  if 0 ≤ k then String.ofList (digits ++ List.replicate k.toNat '0')
  else
    let places := (-k).toNat
    let padded := List.replicate (places + 1 - digits.length) '0' ++ digits
    let whole := padded.take (padded.length - places)
    let fraction := padded.drop (padded.length - places)
    String.ofList (whole ++ '.' :: fraction)

/-- Writes a value of a format as its shortest decimal, without an exponent. -/
def Binary.positional (f : BinaryFormat) : Binary → String
  | .nan => "NaN"
  | .infinite negative => if negative then "-inf" else "inf"
  | .finite negative m e =>
      let body :=
        if m = 0 then "0"
        else
          let (n, k) := shortest f m e
          let (n, k) := dropZeros 400 n k
          positionalDigits n k
      if negative then "-" ++ body else body

end Harvest.Number
