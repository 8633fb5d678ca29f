import Harvest.Regex.Reader
import Harvest.Regex.Search

/-!
# Compiled Regular Expressions

`Regex.compile?` reads a regular expression and lays down its program. What a compiled one
can do is small: it counts its capture groups, finds the groups of its first match, and
replaces all of its matches.

A *replacement* may refer to groups, as `$1`, `$name` or in braces; `$$` is a dollar sign.
A reference to a group that does not exist or took no part stands for the empty text, and a
dollar sign that begins no reference stands for itself.
-/

namespace Harvest

/-- A compiled regular expression. -/
structure Regex where
  /-- The program. -/
  program : Regex.Program
  /-- The number of capture groups. -/
  groups : Nat
  /-- The names of groups with their indices. -/
  names : List (String × Nat)

namespace Regex

/-- Compiles a regular expression, if it is one. -/
def compile? (source : String) : Option Regex := do
  let read ← read? source.toList
  let program ← read.expr.program?
  pure ⟨program, read.expr.lastGroup, read.names⟩

/-- The positions of a group among the slots of a match. -/
def Slots.span? (slots : Slots) (group : Nat) : Option (Nat × Nat) := do
  let first ← slots.lookup (2 * group)
  let last ← slots.lookup (2 * group + 1)
  pure (first, last)

/-- The part of a text between two positions. -/
def slice (cs : List Char) (span : Nat × Nat) : List Char :=
  (cs.drop span.1).take (span.2 - span.1)

/-- The texts of the capture groups of the first match, `none` for a group that took no
part in it. -/
def captures? (r : Regex) (text : String) : Option (List (Option String)) :=
  let cs := text.toList
  (r.program.search none 0 cs).map fun slots =>
    (List.range r.groups).map fun i =>
      (slots.span? (i + 1)).map fun span => String.ofList (slice cs span)

/-! ### Replacement -/

/-- A piece of a replacement. -/
inductive Piece where
  /-- A character that stands for itself. -/
  | char (c : Char)
  /-- The text of a group by its index. -/
  | index (n : Nat)
  /-- The text of a group by its name. -/
  | name (n : String)
  deriving DecidableEq, Repr

/-- The index that a reference writes, if it is a number: an optional plus and digits. -/
def referenceIndex? (name : List Char) : Option Nat :=
  let digits := match name with
    | '+' :: rest => rest
    | rest => rest
  if digits.isEmpty || !digits.all Char.isDigit then none
  else
    let n := digits.foldl (fun n c => n * 10 + (c.toNat - '0'.toNat)) 0
    if n < Nat.pow 2 64 then some n else none

/-- A reference by its name. -/
def Piece.reference (name : List Char) : Piece :=
  match referenceIndex? name with
  | some n => .index n
  | none => .name (String.ofList name)

/-- The letters of a reference without braces. -/
def isReferenceChar (c : Char) : Bool :=
  c.isAlphanum || c == '_'

/-- Reads a reference after its dollar sign: the piece and the number of characters it has. -/
def readReference? (cs : List Char) : Option (Piece × Nat) :=
  match cs with
  | [] => none
  | c :: rest =>
      if c = '$' then some (.char '$', 1)
      else if c.toNat = 0x7B then
        let name := rest.takeWhile fun c => c.toNat != 0x7D
        if name.length < rest.length then some (.reference name, name.length + 2) else none
      else
        let name := cs.takeWhile isReferenceChar
        if name.isEmpty then none else some (.reference name, name.length)

/-- Reads a replacement; the first `skip` characters belong to the piece read last. -/
def readReplacementFrom : (skip : Nat) → List Char → List Piece → List Piece
  | _, [], done => done.reverse
  | skip + 1, _ :: cs, done => readReplacementFrom skip cs done
  | 0, c :: cs, done =>
      if c = '$' then
        match readReference? cs with
        | some (piece, length) => readReplacementFrom length cs (piece :: done)
        | none => readReplacementFrom 0 cs (.char c :: done)
      else readReplacementFrom 0 cs (.char c :: done)

/-- Reads a replacement. -/
def readReplacement (replacement : String) : List Piece :=
  readReplacementFrom 0 replacement.toList []

/-- The text that a piece stands for in a match. -/
def Piece.expand (r : Regex) (cs : List Char) (slots : Slots) : Piece → List Char
  | .char c => [c]
  | .index n => ((slots.span? n).map (slice cs)).getD []
  | .name n =>
      match r.names.lookup n with
      | some i => ((slots.span? i).map (slice cs)).getD []
      | none => []

/-- The matches from a position on, in order. A match of the empty text where the last match
ended is passed over. `rest` is the text from `position` on, `before` the character before
it, and `last` the end of the last match. -/
def matchesFrom (r : Regex) : (fuel : Nat) → (before : Option Char) → (position : Nat) →
    (last : Option Nat) → List Char → List Slots
  | 0, _, _, _, _ => []
  | fuel + 1, before, position, last, rest =>
      match r.program.search before position rest with
      | none => []
      | some slots =>
          match slots.span? 0 with
          | none => []
          | some (first, finish) =>
              if first = finish ∧ some finish = last then
                match rest with
                | [] => []
                | c :: rest => matchesFrom r fuel (some c) (position + 1) last rest
              else
                let taken := rest.take (finish - position)
                let before := match taken.getLast? with
                  | some c => some c
                  | none => before
                slots ::
                  matchesFrom r fuel before finish (some finish) (rest.drop (finish - position))

/-- The matches in a text. A match is followed by another or by a step of one character, so
twice the length of the text bounds their search. -/
def allMatches (r : Regex) (cs : List Char) : List Slots :=
  r.matchesFrom (2 * cs.length + 2) none 0 none cs

/-- Puts a text together from the parts between matches and the replacements of matches. -/
def rebuild (expand : Slots → List Char) (cs : List Char) : (position : Nat) → List Slots →
    List (List Char)
  | position, [] => [cs.drop position]
  | position, slots :: rest =>
      match slots.span? 0 with
      | none => rebuild expand cs position rest
      | some (first, finish) =>
          slice cs (position, first) :: expand slots :: rebuild expand cs finish rest

/-- Replaces every match in a text. -/
def replaceAll (r : Regex) (replacement text : String) : String :=
  let cs := text.toList
  let pieces := readReplacement replacement
  let expand := fun slots => pieces.flatMap (Piece.expand r cs slots)
  String.ofList (rebuild expand cs 0 (r.allMatches cs)).flatten

end Regex

end Harvest
