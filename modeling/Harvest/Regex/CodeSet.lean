import Harvest.Text.CodeRanges

/-!
# Sets of Characters

The characters that one step of a regular expression accepts, as disjoint ranges of code
points in ascending order with gaps between them. The operations keep that form:
`ofRanges` brings any list of ranges into it.
-/

namespace Harvest.Regex

/-- A set of code points. -/
structure CodeSet where
  /-- The ranges, ascending, disjoint and not adjacent. -/
  ranges : List (Nat × Nat)
  deriving DecidableEq, Repr

namespace CodeSet

/-- The greatest code point. -/
def maxCode : Nat := 0x10FFFF

/-- The set without members. -/
def empty : CodeSet := ⟨[]⟩

/-- The set of all code points. -/
def full : CodeSet := ⟨[(0, maxCode)]⟩

/-- The code points from `lo` to `hi`. -/
def range (lo hi : Nat) : CodeSet :=
  if lo ≤ hi then ⟨[(lo, hi)]⟩ else empty

/-- The set of one character. -/
def single (c : Char) : CodeSet :=
  ⟨[(c.toNat, c.toNat)]⟩

/-- Joins sorted ranges that overlap or touch; `current` is the range being built and
`done` the finished ones, latest first. -/
def joinFrom (current : Nat × Nat) (done : List (Nat × Nat)) :
    List (Nat × Nat) → List (Nat × Nat)
  | [] => (current :: done).reverse
  | r :: rest =>
      if r.1 ≤ current.2 + 1 then joinFrom (current.1, max current.2 r.2) done rest
      else joinFrom r (current :: done) rest

/-- The union of any ranges. -/
def ofRanges (ranges : List (Nat × Nat)) : CodeSet :=
  let sorted := (ranges.filter fun r => r.1 ≤ r.2).mergeSort fun a b => a.1 ≤ b.1
  match sorted with
  | [] => empty
  | r :: rest => ⟨joinFrom r [] rest⟩

/-- The members of either set. -/
def union (s t : CodeSet) : CodeSet :=
  if s.ranges.isEmpty then t
  else if t.ranges.isEmpty then s
  else ofRanges (s.ranges ++ t.ranges)

/-- The gaps between sorted ranges from `start` on. -/
def gapsFrom (start : Nat) : List (Nat × Nat) → List (Nat × Nat)
  | [] => if start ≤ maxCode then [(start, maxCode)] else []
  | r :: rest =>
      if start < r.1 then (start, r.1 - 1) :: gapsFrom (r.2 + 1) rest
      else gapsFrom (r.2 + 1) rest

/-- The code points that are no members. -/
def complement (s : CodeSet) : CodeSet :=
  ⟨gapsFrom 0 s.ranges⟩

/-- The members of both sets. -/
def inter (s t : CodeSet) : CodeSet :=
  (s.complement.union t.complement).complement

/-- The members of the first set that are not in the second. -/
def diff (s t : CodeSet) : CodeSet :=
  s.inter t.complement

/-- The members of exactly one of the sets. -/
def symmDiff (s t : CodeSet) : CodeSet :=
  (s.union t).diff (s.inter t)

/-- Whether a code point is a member. -/
def contains (s : CodeSet) (n : Nat) : Bool :=
  s.ranges.any fun r => r.1 ≤ n && n ≤ r.2

/-- Whether all members are ASCII. -/
def isAscii (s : CodeSet) : Bool :=
  s.ranges.all fun r => r.2 < 128

/-- Reads a set from its text. -/
def ofTable (text : String) : CodeSet :=
  ⟨(Text.CodeRanges.ofTable text).ranges.toList⟩

end CodeSet

/-- A set kept as text, under its normalized names. -/
structure NamedTable where
  /-- The names. -/
  names : List String
  /-- The ranges. -/
  table : String

/-- The set of a name. -/
def lookupTable (tables : List NamedTable) (name : String) : Option CodeSet :=
  (tables.find? fun t => t.names.contains name).map fun t => CodeSet.ofTable t.table

end Harvest.Regex
