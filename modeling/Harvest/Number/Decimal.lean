import Harvest.Number.Binary
import Harvest.Number.Integer

/-!
# Decimal Literals

A decimal literal is an optional sign, then digits with at most one point among, before or
after them, then optionally `e` or `E` with a signed exponent. At least one digit is
needed before the exponent and, if it is there, in it. The words `nan`, `inf` and
`infinity` are literals too, in any case and with an optional sign.

A literal is read to the exact value it writes and rounded once.
-/

namespace Harvest.Number

/-- The finite value `digits * 10 ^ exponent`, negated when `negative`. -/
structure Decimal where
  /-- Whether the value is negated. -/
  negative : Bool
  /-- The digits as one number. -/
  digits : Nat
  /-- The power of ten. -/
  exponent : Int
  deriving DecidableEq, Repr

/-- The number written by a list of ASCII digits. -/
def digitsValue (cs : List Char) : Nat :=
  cs.foldl (fun n c => n * 10 + (c.toNat - '0'.toNat)) 0

/-- Splits the digits from the start of a text. -/
def spanDigits (cs : List Char) : List Char × List Char :=
  (cs.takeWhile Char.isDigit, cs.dropWhile Char.isDigit)

/-- Reads the exponent at the end of a literal, zero when there is none. -/
def readExponent? : List Char → Option Int
  | [] => some 0
  | e :: cs =>
      if e = 'e' ∨ e = 'E' then
        let (negative, digits) := match cs with
          | '+' :: rest => (false, rest)
          | '-' :: rest => (true, rest)
          | rest => (false, rest)
        if digits.isEmpty || !digits.all Char.isDigit then none
        else
          let n : Int := digitsValue digits
          some (if negative then -n else n)
      else none

/-- Splits the sign from a literal. -/
def spanSign : List Char → Bool × List Char
  | '+' :: cs => (false, cs)
  | '-' :: cs => (true, cs)
  | cs => (false, cs)

/-- Reads a literal other than a word. -/
def Decimal.read? (cs : List Char) : Option Decimal :=
  let (negative, cs) := spanSign cs
  let (whole, cs) := spanDigits cs
  let (fraction, cs) := match cs with
    | '.' :: rest => spanDigits rest
    | rest => ([], rest)
  if whole.isEmpty && fraction.isEmpty then none
  else (readExponent? cs).map fun e =>
    ⟨negative, digitsValue (whole ++ fraction), e - fraction.length⟩

/-- The value of a format nearest to a decimal. A power of ten lies between the powers of eight
and of sixteen with the same exponent, and this settles a decimal far above or far under the
range of the format without computing the power. -/
def Decimal.round (f : BinaryFormat) (d : Decimal) : Binary :=
  if d.digits = 0 then f.round d.negative 0 1
  else
    let magnitude : Int := d.digits.log2 + 3 * d.exponent
    if 0 ≤ d.exponent then
      if f.greatestExponent + f.precision ≤ magnitude then .infinite d.negative
      else f.round d.negative (d.digits * Nat.pow 10 d.exponent.toNat) 1
    else if magnitude + 1 < f.leastExponent then f.round d.negative 0 1
    else f.round d.negative d.digits (Nat.pow 10 (-d.exponent).toNat)

/-- Reads a word that stands for a value without digits. -/
def readWord? (cs : List Char) : Option Binary :=
  let (negative, cs) := spanSign cs
  let word := cs.map Char.toLower
  if word = "nan".toList then some .nan
  else if word = "inf".toList ∨ word = "infinity".toList then some (.infinite negative)
  else none

/-- Reads a literal as a value of a format. -/
def BinaryFormat.read? (f : BinaryFormat) (text : String) : Option Binary :=
  match Decimal.read? text.toList with
  | some d => some (d.round f)
  | none => readWord? text.toList

end Harvest.Number
