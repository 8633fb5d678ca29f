/-!
# Reading UTF-8

A machine that reads octets one at a time. It yields a character for every well-formed
sequence and a fault for every maximal ill-formed one: the longest start of a well-formed
sequence that the next octet does not continue, or a single octet that starts none.

* `decode?` accepts exactly the well-formed texts.
* `decodeLossy` puts the replacement character in the place of every fault.
-/

namespace Harvest.Text.Utf8

/-- A character of which some octets are still owed. -/
structure Pending where
  /-- How many octets are still owed, at least one. -/
  owed : Nat
  /-- The least value of the next octet. -/
  low : Nat
  /-- The greatest value of the next octet. -/
  high : Nat
  /-- The bits read so far. -/
  value : Nat

/-- What the machine has read: the yields so far, latest first, with `none` for a fault,
and the character it is in the middle of. -/
structure Reading where
  /-- Characters and faults, latest first. -/
  yields : List (Option Char)
  /-- The unfinished character. -/
  pending : Option Pending

/-- Reads the first octet of a character. -/
def Reading.lead (yields : List (Option Char)) (b : Nat) : Reading :=
  if b < 0x80 then ⟨some (Char.ofNat b) :: yields, none⟩
  else if 0xC2 ≤ b ∧ b ≤ 0xDF then ⟨yields, some ⟨1, 0x80, 0xBF, b - 0xC0⟩⟩
  else if b = 0xE0 then ⟨yields, some ⟨2, 0xA0, 0xBF, 0⟩⟩
  else if b = 0xED then ⟨yields, some ⟨2, 0x80, 0x9F, 0xD⟩⟩
  else if 0xE1 ≤ b ∧ b ≤ 0xEF then ⟨yields, some ⟨2, 0x80, 0xBF, b - 0xE0⟩⟩
  else if b = 0xF0 then ⟨yields, some ⟨3, 0x90, 0xBF, 0⟩⟩
  else if 0xF1 ≤ b ∧ b ≤ 0xF3 then ⟨yields, some ⟨3, 0x80, 0xBF, b - 0xF0⟩⟩
  else if b = 0xF4 then ⟨yields, some ⟨3, 0x80, 0x8F, 4⟩⟩
  else ⟨none :: yields, none⟩

/-- Reads one octet. -/
def Reading.step (r : Reading) (octet : UInt8) : Reading :=
  let b := octet.toNat
  match r.pending with
  | none => Reading.lead r.yields b
  | some p =>
      if p.low ≤ b ∧ b ≤ p.high then
        let value := p.value * 64 + (b - 0x80)
        if p.owed = 1 then ⟨some (Char.ofNat value) :: r.yields, none⟩
        else ⟨r.yields, some ⟨p.owed - 1, 0x80, 0xBF, value⟩⟩
      else Reading.lead (none :: r.yields) b

/-- The characters and faults of a sequence of octets, in order. -/
def read (octets : List UInt8) : List (Option Char) :=
  let r := octets.foldl Reading.step ⟨[], none⟩
  match r.pending with
  | none => r.yields.reverse
  | some _ => (none :: r.yields).reverse

/-- The text of a well-formed sequence of octets. -/
def decode? (octets : List UInt8) : Option (List Char) :=
  (read octets).mapM id

/-- The text of a sequence of octets, each fault replaced. -/
def decodeLossy (octets : List UInt8) : List Char :=
  (read octets).map fun y => y.getD (Char.ofNat 0xFFFD)

end Harvest.Text.Utf8
