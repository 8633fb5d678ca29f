/-!
# Sets and Maps of Code Points

Properties of characters are tables of code points. A table is written as text, in the
manner of the character database: code points in hexadecimal, items separated by blanks.

* A *set* is a list of closed ranges, `41-5A` or a single `AA`.
* A *map* is a list of shifted runs, `41-5A:61` sending `41` to `61`, `42` to `62` and so
  on; `100-12E/2:101` is a run over every second code point.

Both are kept sorted by their lower ends and are searched by halving.
-/

namespace Harvest.Text

/-- The value of a hexadecimal digit. -/
def hexDigit? (c : Char) : Option Nat :=
  if '0' ≤ c ∧ c ≤ '9' then some (c.toNat - '0'.toNat)
  else if 'a' ≤ c ∧ c ≤ 'f' then some (c.toNat - 'a'.toNat + 10)
  else if 'A' ≤ c ∧ c ≤ 'F' then some (c.toNat - 'A'.toNat + 10)
  else none

/-- The number written by a list of hexadecimal digits, other characters being skipped. -/
def hexNumber (cs : List Char) : Nat :=
  cs.foldl (fun n c => match hexDigit? c with
    | some d => n * 16 + d
    | none => n) 0

/-- The pieces of a text between the characters equal to `sep`, empty pieces included. -/
def pieces (sep : Char) (cs : List Char) : List (List Char) :=
  let (last, done) := cs.foldl (fun (acc : List Char × List (List Char)) c =>
    if c = sep then ([], acc.1.reverse :: acc.2) else (c :: acc.1, acc.2)) ([], [])
  (last.reverse :: done).reverse

/-- The items of a table: the nonempty pieces between spaces and newlines. -/
def tableItems (text : String) : List (List Char) :=
  (text.toList.splitOnP fun c => c = ' ' || c = '\n').filter fun item => !item.isEmpty

/-- A set of code points, as disjoint closed ranges in ascending order. -/
structure CodeRanges where
  /-- The ranges, each with its least and its greatest code point. -/
  ranges : Array (Nat × Nat)

/-- Reads one range, `41-5A` or `AA`. -/
def CodeRanges.item (cs : List Char) : Nat × Nat :=
  match pieces '-' cs with
  | [lo, hi] => (hexNumber lo, hexNumber hi)
  | _ => (hexNumber cs, hexNumber cs)

/-- Reads a set from its text. -/
def CodeRanges.ofTable (text : String) : CodeRanges :=
  ⟨((tableItems text).map CodeRanges.item).toArray⟩

/-- The index of the last entry whose lower end is at most `n`, between `lo` and `hi`,
by halving; `fuel` bounds the number of halvings. -/
def lastBelow (lower : Nat → Nat) (n : Nat) : (fuel lo hi : Nat) → Nat
  | 0, lo, _ => lo
  | fuel + 1, lo, hi =>
      if hi ≤ lo + 1 then lo
      else
        let mid := (lo + hi) / 2
        if lower mid ≤ n then lastBelow lower n fuel mid hi
        else lastBelow lower n fuel lo mid

/-- Whether a code point is in the set. -/
def CodeRanges.containsCode (t : CodeRanges) (n : Nat) : Bool :=
  let i := lastBelow (fun i => (t.ranges.getD i (0, 0)).1) n 64 0 t.ranges.size
  match t.ranges[i]? with
  | some (lo, hi) => decide (lo ≤ n) && decide (n ≤ hi)
  | none => false

/-- Whether a character is in the set. -/
def CodeRanges.contains (t : CodeRanges) (c : Char) : Bool :=
  t.containsCode c.toNat

/-- A run of code points sent to a run of the same spacing. -/
structure CodeRun where
  /-- The first code point of the run. -/
  first : Nat
  /-- The last code point of the run. -/
  last : Nat
  /-- The distance between neighbours, one or two. -/
  step : Nat
  /-- Where the first code point goes. -/
  image : Nat

/-- A map between code points, as runs in ascending order that do not interleave. -/
structure CodeMap where
  /-- The runs. -/
  runs : Array CodeRun

/-- Reads one run, `41-5A:61`, `100-12E/2:101` or `178:FF`. -/
def CodeRun.item (cs : List Char) : CodeRun :=
  match pieces ':' cs with
  | [source, image] =>
      let (range, step) := match pieces '/' source with
        | [range, step] => (range, hexNumber step)
        | _ => (source, 1)
      let (lo, hi) := CodeRanges.item range
      ⟨lo, hi, step, hexNumber image⟩
  | _ => ⟨0, 0, 1, 0⟩

/-- Reads a map from its text. -/
def CodeMap.ofTable (text : String) : CodeMap :=
  ⟨((tableItems text).map CodeRun.item).toArray⟩

/-- The image of a code point, when the map moves it. -/
def CodeMap.image? (m : CodeMap) (n : Nat) : Option Nat :=
  let i := lastBelow (fun i => ((m.runs[i]?).map CodeRun.first).getD 0) n 64 0 m.runs.size
  match m.runs[i]? with
  | some r =>
      if r.first ≤ n ∧ n ≤ r.last ∧ (n - r.first) % r.step = 0 then
        some (r.image + (n - r.first))
      else none
  | none => none

end Harvest.Text
