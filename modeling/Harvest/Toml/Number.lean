import Harvest.Number.Decimal
import Harvest.Toml.Text
import Harvest.Toml.Value

/-!
# Numbers and Moments

Numbers may have an underscore between two of their digits. An integer has 64 bits and may
be written to the base sixteen, eight or two; any other number is of the 64-bit binary
format. Dates and times are fixed groups of digits.
-/

namespace Harvest.Toml

open Number (Binary BinaryFormat Decimal digitsValue)
open Text (hexDigit?)

/-! ### Digits -/

/-- Reads digits, which may have an underscore before each of them. -/
def readDigits (isDigit : Char → Bool) : List Char → List Char × List Char
  | '_' :: d :: cs =>
      if isDigit d then
        let (ds, rest) := readDigits isDigit cs
        (d :: ds, rest)
      else ([], '_' :: d :: cs)
  | d :: cs =>
      if isDigit d then
        let (ds, rest) := readDigits isDigit cs
        (d :: ds, rest)
      else ([], d :: cs)
  | [] => ([], [])

/-- Reads one or more digits, the first without an underscore before it. -/
def readDigitRun? (isDigit : Char → Bool) : Reading (List Char)
  | d :: cs =>
      if isDigit d then
        let (ds, rest) := readDigits isDigit cs
        some (d :: ds, rest)
      else none
  | [] => none

/-- Reads a sign, if there is one: whether the number is negative. -/
def readSign : List Char → Bool × List Char
  | '+' :: cs => (false, cs)
  | '-' :: cs => (true, cs)
  | cs => (false, cs)

/-- Reads the digits before a point: a zero, or digits that do not start with one. -/
def readWhole? : Reading (List Char)
  | '0' :: cs => some (['0'], cs)
  | cs => readDigitRun? Char.isDigit cs

/-! ### Integers -/

/-- Whether a number is an integer of 64 bits. -/
def isInRange (n : Int) : Bool :=
  decide (-(Nat.pow 2 63 : Int) ≤ n ∧ n < Nat.pow 2 63)

/-- Reads the digits of an integer to another base than ten. -/
def readBased? (base : Nat) (cs : List Char) : Option (Value × List Char) :=
  let isDigit := fun c => ((hexDigit? c).any (· < base))
  match readDigitRun? isDigit cs with
  | none => none
  | some (ds, rest) =>
      let n : Int := ((ds.filterMap hexDigit?).foldl (fun n d => n * base + d) 0 : Nat)
      if isInRange n then some (.integer n, rest) else none

/-- Reads an integer. -/
def readInteger? : Reading Value
  | '0' :: 'x' :: cs => readBased? 16 cs
  | '0' :: 'o' :: cs => readBased? 8 cs
  | '0' :: 'b' :: cs => readBased? 2 cs
  | cs =>
      let (negative, cs) := readSign cs
      match readWhole? cs with
      | none => none
      | some (ds, rest) =>
          let n : Int := digitsValue ds
          let n := if negative then -n else n
          if isInRange n then some (.integer n, rest) else none

/-! ### Other numbers -/

/-- Reads an exponent. -/
def readExponent? : Reading Int
  | e :: cs =>
      if e = 'e' ∨ e = 'E' then
        let (negative, cs) := readSign cs
        (readDigitRun? Char.isDigit cs).map fun (ds, rest) =>
          let n : Int := digitsValue ds
          (if negative then -n else n, rest)
      else none
  | [] => none

/-- Reads a point and the digits after it. -/
def readFraction? : Reading (List Char)
  | '.' :: cs => readDigitRun? Char.isDigit cs
  | _ => none

/-- Reads a number with a fraction, an exponent or both. -/
def readDecimal? (cs : List Char) : Option (Decimal × List Char) := do
  let (negative, cs) := readSign cs
  let (whole, cs) ← readWhole? cs
  match readFraction? cs with
  | some (fraction, cs) =>
      let (e, cs) := (readExponent? cs).getD (0, cs)
      pure (⟨negative, digitsValue (whole ++ fraction), e - fraction.length⟩, cs)
  | none =>
      let (e, cs) ← readExponent? cs
      pure (⟨negative, digitsValue whole, e⟩, cs)

/-- Reads a word for an infinity or for no number. -/
def readSpecial? (cs : List Char) : Option (Value × List Char) :=
  match readSign cs with
  | (negative, 'i' :: 'n' :: 'f' :: rest) => some (.float (.infinite negative), rest)
  | (_, 'n' :: 'a' :: 'n' :: rest) => some (.float .nan, rest)
  | _ => none

/-- Reads a number that is no integer. One too great for the format is refused; one too far
below zero is infinite. -/
def readFloat? (cs : List Char) : Option (Value × List Char) :=
  match readDecimal? cs with
  | some (d, rest) =>
      let x := d.round .double
      if x = .infinite false then none else some (.float x, rest)
  | none => readSpecial? cs

/-! ### Dates and times -/

/-- Reads a number of so many digits within bounds. -/
def readGroup? (count least greatest : Nat) (cs : List Char) : Option (Nat × List Char) :=
  let ds := cs.take count
  let n := digitsValue ds
  if ds.length = count ∧ ds.all Char.isDigit ∧ least ≤ n ∧ n ≤ greatest then
    some (n, cs.drop count)
  else none

/-- Reads a given character. -/
def readMark? (mark : Char) : Reading Unit
  | c :: cs => if c = mark then some ((), cs) else none
  | [] => none

/-- Reads a date. -/
def readDate? (cs : List Char) : Option (Date × List Char) := do
  let (year, cs) ← readGroup? 4 0 9999 cs
  let (_, cs) ← readMark? '-' cs
  let (month, cs) ← readGroup? 2 1 12 cs
  let (_, cs) ← readMark? '-' cs
  let (day, cs) ← readGroup? 2 1 (daysOfMonth year month) cs
  pure (⟨year, month, day⟩, cs)

/-- Reads a fraction of a second in billionths. Digits beyond the ninth do not count. -/
def readNanosecond? : Reading Nat
  | '.' :: cs =>
      let ds := cs.takeWhile Char.isDigit
      let first := ds.take 9
      if ds.isEmpty then none
      else some (digitsValue first * Nat.pow 10 (9 - first.length), cs.dropWhile Char.isDigit)
  | _ => none

/-- Reads a time of day. -/
def readTime? (cs : List Char) : Option (Time × List Char) := do
  let (hour, cs) ← readGroup? 2 0 23 cs
  let (_, cs) ← readMark? ':' cs
  let (minute, cs) ← readGroup? 2 0 59 cs
  let (_, cs) ← readMark? ':' cs
  let (second, cs) ← readGroup? 2 0 60 cs
  let (nanosecond, cs) := (readNanosecond? cs).getD (0, cs)
  pure (⟨hour, minute, second, nanosecond⟩, cs)

/-- Reads how far local time is from universal time. -/
def readOffset? : Reading Offset
  | c :: cs =>
      if c = 'Z' ∨ c = 'z' then some (.universal, cs)
      else if c = '+' ∨ c = '-' then do
        let (hour, cs) ← readGroup? 2 0 23 cs
        let (_, cs) ← readMark? ':' cs
        let (minute, cs) ← readGroup? 2 0 59 cs
        pure (.minutes (c = '-') (hour * 60 + minute), cs)
      else none
  | [] => none

/-- Reads the time after a date, with what follows it. -/
def readTimeAfterDate? : Reading (Time × Option Offset)
  | c :: cs =>
      if c = 'T' ∨ c = 't' ∨ c = ' ' then do
        let (time, cs) ← readTime? cs
        match readOffset? cs with
        | some (offset, rest) => pure ((time, some offset), rest)
        | none => pure ((time, none), cs)
      else none
  | [] => none

/-- Reads a date, a time, or both. -/
def readDatetime? (cs : List Char) : Option (Value × List Char) :=
  match readDate? cs with
  | some (date, rest) =>
      match readTimeAfterDate? rest with
      | some ((time, offset), rest) => some (.datetime ⟨some date, some time, offset⟩, rest)
      | none => some (.datetime ⟨some date, none, none⟩, rest)
  | none => (readTime? cs).map fun (time, rest) => (.datetime ⟨none, some time, none⟩, rest)

/-- Reads a number or a moment. -/
def readNumber? (cs : List Char) : Option (Value × List Char) :=
  readDatetime? cs <|> readFloat? cs <|> readInteger? cs

end Harvest.Toml
