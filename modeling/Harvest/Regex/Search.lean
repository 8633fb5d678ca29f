import Harvest.Regex.Program
import Harvest.Regex.Property

/-!
# Searching

A program is run over a text with a list of threads in order of preference, one character
at a time. A thread is an instruction and the slots noted on the way to it. Two threads at
one instruction differ in their slots alone, and the preferred one is kept; so the number
of threads is bounded by the program, and the time by the product of program and text.

`Program.search` finds the leftmost match, and among the matches that begin there the
preferred one.
-/

namespace Harvest.Regex

/-- The positions noted so far, by slot. -/
abbrev Slots := List (Nat × Nat)

/-- The characters around a position. -/
structure Place where
  /-- The character before. -/
  before : Option Char
  /-- The character after. -/
  after : Option Char

/-- The word characters of Unicode. -/
def unicodeWords : Text.CodeRanges := .ofTable wordTable

/-- Whether a character belongs to words. -/
def isWordChar (unicode : Bool) (c : Char) : Bool :=
  if c.toNat < 128 then c.isAlphanum || c == '_'
  else unicode && unicodeWords.contains c

/-- Whether a condition holds at a place. -/
def Look.holds (l : Look) (p : Place) : Bool :=
  let word (unicode : Bool) (c : Option Char) : Bool := c.any (isWordChar unicode)
  match l with
  | .start => p.before.isNone
  | .finish => p.after.isNone
  | .startLine => p.before.isNone || p.before == some '\n'
  | .finishLine => p.after.isNone || p.after == some '\n'
  | .startLineReturn =>
      p.before.isNone || p.before == some '\n'
        || (p.before == some '\r' && p.after != some '\n')
  | .finishLineReturn =>
      p.after.isNone || p.after == some '\r'
        || (p.after == some '\n' && p.before != some '\r')
  | .boundary u => word u p.before != word u p.after
  | .noBoundary u => word u p.before == word u p.after
  | .wordStart u => !word u p.before && word u p.after
  | .wordFinish u => word u p.before && !word u p.after
  | .wordStartHalf u => !word u p.before
  | .wordFinishHalf u => !word u p.after

/-- A thread that waits for a character, or that has matched. -/
structure Thread where
  /-- The number of its instruction. -/
  at_ : Nat
  /-- The positions it has noted. -/
  slots : Slots

/-- Threads in order of preference, latest first, and the instructions they have passed. -/
structure ThreadList where
  /-- The threads, latest first. -/
  threads : List Thread
  /-- The instructions that have been reached. -/
  reached : Array Bool

/-- Notes a position in a slot. -/
def Slots.note (slots : Slots) (slot position : Nat) : Slots :=
  match slots with
  | [] => [(slot, position)]
  | (s, p) :: rest =>
      if s = slot then (slot, position) :: rest else (s, p) :: Slots.note rest slot position

namespace Program

/-- Follows threads to the instructions that wait for a character, the first thread of the
stack first. No instruction is reached twice; `fuel` bounds the steps. -/
def follow (p : Program) (place : Place) (position : Nat) :
    (fuel : Nat) → (stack : List Thread) → ThreadList → ThreadList
  | 0, _, list => list
  | _, [], list => list
  | fuel + 1, t :: stack, list =>
      if list.reached.getD t.at_ true then follow p place position fuel stack list
      else
        let reached := list.reached.setIfInBounds t.at_ true
        match p.code[t.at_]? with
        | none => follow p place position fuel stack ⟨list.threads, reached⟩
        | some (.look l next) =>
            let stack := if l.holds place then ⟨next, t.slots⟩ :: stack else stack
            follow p place position fuel stack ⟨list.threads, reached⟩
        | some (.save slot next) =>
            follow p place position fuel (⟨next, t.slots.note slot position⟩ :: stack)
              ⟨list.threads, reached⟩
        | some (.choice ways) =>
            follow p place position fuel (ways.map (⟨·, t.slots⟩) ++ stack)
              ⟨list.threads, reached⟩
        | some _ => follow p place position fuel stack ⟨t :: list.threads, reached⟩

/-- A bound for the steps of `follow`: every instruction and every way once. -/
def followFuel (p : Program) : Nat :=
  p.code.foldl (fun n i => match i with
    | .choice ways => n + 2 + ways.length
    | _ => n + 2) 2

/-- An empty thread list for a program. -/
def noThreads (p : Program) : ThreadList :=
  ⟨[], Array.replicate p.code.size false⟩

/-- Lets threads take a character, the preferred first. A thread that has matched ends the
list: its slots are returned, and the threads after it are dropped. -/
def step (p : Program) (fuel : Nat) (c : Option Char) (place : Place) (position : Nat) :
    List Thread → ThreadList → ThreadList × Option Slots
  | [], list => (list, none)
  | t :: threads, list =>
      match p.code[t.at_]? with
      | some .accept => (list, some t.slots)
      | some (.chars set next) =>
          let list := match c with
            | some c =>
                if set.contains c then p.follow place position fuel [⟨next, t.slots⟩] list
                else list
            | none => list
          step p fuel c place position threads list
      | _ => step p fuel c place position threads list

/-- Runs the threads over the rest of a text, `best` being the match found so far. While
none has been found, a new thread begins at every position. -/
def runFrom (p : Program) (fuel : Nat) (before : Option Char) (position : Nat)
    (threads : ThreadList) (best : Option Slots) : List Char → Option Slots
  | [] =>
      let list := if best.isNone then
          p.follow ⟨before, none⟩ position fuel [⟨p.entry, []⟩] threads
        else threads
      match (p.step fuel none ⟨none, none⟩ position list.threads.reverse p.noThreads).2 with
      | some slots => some slots
      | none => best
  | c :: cs =>
      let list := if best.isNone then
          p.follow ⟨before, some c⟩ position fuel [⟨p.entry, []⟩] threads
        else threads
      let (next, found) := p.step fuel (some c) ⟨some c, cs.head?⟩ (position + 1)
        list.threads.reverse p.noThreads
      let best := match found with
        | some slots => some slots
        | none => best
      if next.threads.isEmpty && best.isSome then best
      else runFrom p fuel (some c) (position + 1) next best cs

/-- The slots of the leftmost match in a text that follows the character `before`, the
positions counted on from `position`. -/
def search (p : Program) (before : Option Char) (position : Nat) (cs : List Char) :
    Option Slots :=
  p.runFrom p.followFuel before position p.noThreads none cs

end Program

end Harvest.Regex
