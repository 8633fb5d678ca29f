import Harvest.Regex.CodeSet

/-!
# Regular Expressions

The shape of a regular expression once its flags, classes and escapes have been resolved:
characters are sets of code points, and every repetition says whether it prefers to go on.
-/

namespace Harvest.Regex

/-- Conditions on a position. The ones about words come for Unicode words and for ASCII
words. -/
inductive Look where
  /-- At the start of the text. -/
  | start
  /-- At the end of the text. -/
  | finish
  /-- At the start of a line. -/
  | startLine
  /-- At the end of a line. -/
  | finishLine
  /-- At the start of a line, where a carriage return ends lines too. -/
  | startLineReturn
  /-- At the end of a line, where a carriage return ends lines too. -/
  | finishLineReturn
  /-- Between a word character and another. -/
  | boundary (unicode : Bool)
  /-- Not between a word character and another. -/
  | noBoundary (unicode : Bool)
  /-- Before the first character of a word. -/
  | wordStart (unicode : Bool)
  /-- After the last character of a word. -/
  | wordFinish (unicode : Bool)
  /-- Not after a word character. -/
  | wordStartHalf (unicode : Bool)
  /-- Not before a word character. -/
  | wordFinishHalf (unicode : Bool)
  deriving DecidableEq, Repr

/-- A regular expression. -/
inductive Expr where
  /-- The empty text. -/
  | empty
  /-- One character of a set. -/
  | chars (set : CodeSet)
  /-- The empty text, under a condition. -/
  | look (l : Look)
  /-- A capture group. -/
  | group (index : Nat) (body : Expr)
  /-- A repetition from `min` to `max` times, or without upper bound. -/
  | repeated (body : Expr) (min : Nat) (max : Option Nat) (greedy : Bool)
  /-- One after the other. -/
  | concat (parts : List Expr)
  /-- One of several, the earlier preferred. -/
  | alternate (branches : List Expr)
  deriving Inhabited

namespace Expr

/-- Whether only the empty text can match. -/
def onlyEmpty : Expr → Bool
  | empty => true
  | chars _ => false
  | look _ => true
  | group _ body => body.onlyEmpty
  | repeated body _ _ _ => body.onlyEmpty
  | concat parts => parts.attach.all fun ⟨p, _⟩ => p.onlyEmpty
  | alternate branches => branches.attach.all fun ⟨b, _⟩ => b.onlyEmpty
termination_by e => sizeOf e

/-- Whether the empty text can match. -/
def nullable : Expr → Bool
  | empty => true
  | chars _ => false
  | look _ => true
  | group _ body => body.nullable
  | repeated body min _ _ => min == 0 || body.nullable
  | concat parts => parts.attach.all fun ⟨p, _⟩ => p.nullable
  | alternate branches => branches.attach.any fun ⟨b, _⟩ => b.nullable
termination_by e => sizeOf e

/-- A repetition in its simplest form. Repeating an expression of the empty text more than
once adds nothing; no repetition is the empty text, and the groups inside are gone. -/
def repetition (body : Expr) (min : Nat) (max : Option Nat) (greedy : Bool) : Expr :=
  let (min, max) :=
    if body.onlyEmpty then (Nat.min min 1, some (Nat.min (max.getD 1) 1)) else (min, max)
  if min = 0 ∧ max = some 0 then empty
  else if min = 1 ∧ max = some 1 then body
  else repeated body min max greedy

/-- The greatest index of a capture group. -/
def lastGroup : Expr → Nat
  | empty | chars _ | look _ => 0
  | group index body => Nat.max index body.lastGroup
  | repeated body _ _ _ => body.lastGroup
  | concat parts => parts.attach.foldl (fun n ⟨p, _⟩ => Nat.max n p.lastGroup) 0
  | alternate branches => branches.attach.foldl (fun n ⟨b, _⟩ => Nat.max n b.lastGroup) 0
termination_by e => sizeOf e

end Expr

end Harvest.Regex
