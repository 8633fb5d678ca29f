import Harvest.Regex.Expr
import Harvest.Text.CodeRanges

/-!
# Programs

A regular expression becomes a list of instructions that refer to each other by number.
A choice lists its ways by preference, so that following the ways in order finds the match
that leftmost-first rules ask for.

Instructions are laid down backwards: an expression is compiled towards the instruction
that follows it, and a loop reserves its choice before its body is known.

Expressions whose program would be too large are refused; `programCost` bounds the size
before any instruction is laid down.
-/

namespace Harvest.Regex

/-- An instruction. -/
inductive Instruction where
  /-- Takes one character of a set. -/
  | chars (set : Text.CodeRanges) (next : Nat)
  /-- Goes on under a condition. -/
  | look (l : Look) (next : Nat)
  /-- Notes the position in a slot. -/
  | save (slot next : Nat)
  /-- Goes on in one of several ways, the earlier preferred. -/
  | choice (ways : List Nat)
  /-- Ends a match. -/
  | accept
  deriving Inhabited

/-- The instructions laid down so far. -/
abbrev Code := Array Instruction

/-- Lays down an instruction and gives its number. -/
def Code.emit (code : Code) (i : Instruction) : Nat × Code :=
  (code.size, code.push i)

/-- Lays down the same part several times, each towards the one laid down before it. -/
def chain (compile : Nat → Code → Nat × Code) : (count : Nat) → Nat → Code → Nat × Code
  | 0, next, code => (next, code)
  | count + 1, next, code =>
      let (entry, code) := compile next code
      chain compile count entry code

/-- The ways of a choice between a body and going on. -/
def preference (greedy : Bool) (body next : Nat) : List Nat :=
  if greedy then [body, next] else [next, body]

/-- Lays down an optional part inside another: the body leads to `inner`, and leaving it
leads to `next`. -/
def optional (compile : Nat → Code → Nat × Code) (greedy : Bool) (next inner : Nat)
    (code : Code) : Nat × Code :=
  let (body, code) := compile inner code
  code.emit (.choice (preference greedy body next))

/-- Lays down a part that runs once or more. -/
def oneOrMore (compile : Nat → Code → Nat × Code) (greedy : Bool) (next : Nat) (code : Code) :
    Nat × Code :=
  let (again, code) := code.emit (.choice [])
  let (body, code) := compile again code
  (body, code.setIfInBounds again (.choice (preference greedy body next)))

/-- Lays down a part that runs any number of times. Where the part can match the empty
text, it is the option of one or more runs, which keeps the order of preference; otherwise
one choice is enough. -/
def anyNumber (compile : Nat → Code → Nat × Code) (nullable greedy : Bool) (next : Nat)
    (code : Code) : Nat × Code :=
  if nullable then
    let (body, code) := oneOrMore compile greedy next code
    code.emit (.choice (preference greedy body next))
  else
    let (again, code) := code.emit (.choice [])
    let (body, code) := compile again code
    (again, code.setIfInBounds again (.choice (preference greedy body next)))

/-- Lays down an expression towards the instruction `next`, and gives its entry. -/
def Expr.compile (e : Expr) (next : Nat) (code : Code) : Nat × Code :=
  match e with
  | .empty => (next, code)
  | .chars set => code.emit (.chars ⟨set.ranges.toArray⟩ next)
  | .look l => code.emit (.look l next)
  | .group index body =>
      let (finish, code) := code.emit (.save (2 * index + 1) next)
      let (entry, code) := body.compile finish code
      code.emit (.save (2 * index) entry)
  | .concat parts =>
      parts.attach.reverse.foldl (fun (acc : Nat × Code) ⟨p, _⟩ => p.compile acc.1 acc.2)
        (next, code)
  | .alternate branches =>
      let (entries, code) := branches.attach.foldl
        (fun (acc : List Nat × Code) ⟨b, _⟩ =>
          let (entry, code) := b.compile next acc.2
          (entry :: acc.1, code)) ([], code)
      code.emit (.choice entries.reverse)
  | .repeated body min max greedy =>
      let compile := fun next code => body.compile next code
      match max with
      | none =>
          if min = 0 then anyNumber compile body.nullable greedy next code
          else
            let (last, code) := oneOrMore compile greedy next code
            chain compile (min - 1) last code
      | some max =>
          let (inner, code) := chain (optional compile greedy next) (max - min) next code
          chain compile min inner code
termination_by sizeOf e

/-- An upper bound for sizes, in the units of `programCost`. -/
def costLimit : Nat := 10 * 1024 * 1024

/-- The number of octets that a character has in UTF-8. -/
def octets (n : Nat) : Nat :=
  if n < 0x80 then 1 else if n < 0x800 then 2 else if n < 0x10000 then 3 else 4

/-- The size of the program of an expression, as the octets a machine over UTF-8 spends on
its states: 32 for each, 8 for each transition out of a set and 4 for each way of a choice. -/
def Expr.programCost : Expr → Nat
  | .empty => 0
  | .chars set =>
      match set.ranges with
      | [(lo, hi)] =>
          if lo = hi then 32 * octets lo
          else if hi < 0x80 then 40
          else 200
      | ranges => if set.isAscii then 32 + 8 * ranges.length else 200 + 56 * ranges.length
  | .look _ => 32
  | .group _ body => 64 + body.programCost
  | .repeated body min max _ =>
      let one := body.programCost
      match max with
      | none => Nat.max 1 min * one + 120
      | some max => min * one + (max - min) * (one + 40) + 32
  | .concat parts => parts.attach.foldl (fun n ⟨p, _⟩ => n + p.programCost) 0
  | .alternate branches => branches.attach.foldl (fun n ⟨b, _⟩ => n + 4 + b.programCost) 64
termination_by e => sizeOf e

/-- A program: its instructions and where it begins. -/
structure Program where
  /-- The instructions. -/
  code : Code
  /-- The number of the first instruction. -/
  entry : Nat

/-- The program of an expression, unless it is too large. The whole match is group zero. -/
def Expr.program? (e : Expr) : Option Program :=
  if costLimit < e.programCost then none
  else
    let (accept, code) := Code.emit #[] .accept
    let (entry, code) := (Expr.group 0 e).compile accept code
    some ⟨code, entry⟩

end Harvest.Regex
