/-!
# Reading Integers of Fixed Width

An integer type has a width and may be signed. Its numerals are an optional `+`, or also
`-` for a signed type, and then one or more ASCII digits.

Numerals are read digit by digit. The first digit that takes the value out of range, and
the first character that is no digit, each end the reading with a fault of their own.
-/

namespace Harvest.Number

/-- The widths of integer types; addresses have 64 bits. -/
inductive Width where
  /-- 8 bits. -/
  | w8
  /-- 16 bits. -/
  | w16
  /-- 32 bits. -/
  | w32
  /-- 64 bits. -/
  | w64
  /-- The width of an address. -/
  | address
  deriving DecidableEq, Repr

/-- The number of bits of a width. -/
def Width.bits : Width → Nat
  | .w8 => 8
  | .w16 => 16
  | .w32 => 32
  | .w64 => 64
  | .address => 64

/-- The width as a type's name shows it. -/
def Width.suffix : Width → String
  | .w8 => "8"
  | .w16 => "16"
  | .w32 => "32"
  | .w64 => "64"
  | .address => "size"

/-- An integer type. -/
structure IntegerType where
  /-- Whether there are negative values. -/
  signed : Bool
  /-- The width. -/
  width : Width
  deriving DecidableEq, Repr

namespace IntegerType

/-- The name of the type. -/
def name (t : IntegerType) : String :=
  (if t.signed then "i" else "u") ++ t.width.suffix

/-- The least value. -/
def least (t : IntegerType) : Int :=
  if t.signed then -(Nat.pow 2 (t.width.bits - 1) : Int) else 0

/-- The greatest value. -/
def greatest (t : IntegerType) : Int :=
  if t.signed then (Nat.pow 2 (t.width.bits - 1) : Int) - 1
  else (Nat.pow 2 t.width.bits : Int) - 1

end IntegerType

/-- Why a text is not a number of a type. -/
inductive NumeralFault where
  /-- The text is not a numeral. -/
  | malformed
  /-- The value is out of range. -/
  | outOfRange
  deriving DecidableEq, Repr

/-- The value of an ASCII digit. -/
def digit? (c : Char) : Option Nat :=
  if '0' ≤ c ∧ c ≤ '9' then some (c.toNat - '0'.toNat) else none

/-- Reads digits onto a value, downwards for a negative numeral. -/
def readDigits (t : IntegerType) (negative : Bool) : Int → List Char → Except NumeralFault Int
  | value, [] => .ok value
  | value, c :: cs =>
      match digit? c with
      | none => .error .malformed
      | some d =>
          let next := if negative then value * 10 - d else value * 10 + d
          if t.least ≤ next ∧ next ≤ t.greatest then readDigits t negative next cs
          else .error .outOfRange

/-- Splits the sign from a numeral: whether it is negative, and the digits. A sign that the
type does not have is left among the digits. -/
def splitSign (t : IntegerType) : List Char → Bool × List Char
  | '+' :: cs => (false, cs)
  | '-' :: cs => if t.signed then (true, cs) else (false, '-' :: cs)
  | cs => (false, cs)

/-- Reads a numeral of an integer type. -/
def IntegerType.read (t : IntegerType) (text : String) : Except NumeralFault Int :=
  let (negative, digits) := splitSign t text.toList
  if digits.isEmpty then .error .malformed else readDigits t negative 0 digits

end Harvest.Number
