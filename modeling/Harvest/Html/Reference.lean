import Harvest.Html.Entity

/-!
# Character References

An ampersand may begin a reference, by number or by name, to one or two characters. What
begins no reference stands for itself.

* By number, `&#65;` or `&#x41;`: at least one digit, the semicolon optional. Numbers that
  name no character give the replacement character, and those of the second control block
  give what the old Western code page has there.
* By name, `&amp;`: the longest name of the table. In the value of an attribute, a name
  without semicolon before a letter, a digit or an equals sign is no reference.
-/

namespace Harvest.Html

open Text

/-- The characters of the old Western code page from 80 to 9F, where they differ. -/
def controlImages : List (Nat × Nat) :=
  [(0x80, 0x20AC), (0x82, 0x201A), (0x83, 0x0192), (0x84, 0x201E), (0x85, 0x2026),
    (0x86, 0x2020), (0x87, 0x2021), (0x88, 0x02C6), (0x89, 0x2030), (0x8A, 0x0160),
    (0x8B, 0x2039), (0x8C, 0x0152), (0x8E, 0x017D), (0x91, 0x2018), (0x92, 0x2019),
    (0x93, 0x201C), (0x94, 0x201D), (0x95, 0x2022), (0x96, 0x2013), (0x97, 0x2014),
    (0x98, 0x02DC), (0x99, 0x2122), (0x9A, 0x0161), (0x9B, 0x203A), (0x9C, 0x0153),
    (0x9E, 0x017E), (0x9F, 0x0178)]

/-- The character that stands for what cannot be shown. -/
def replacementChar : Char := '\ufffd'

/-- The character that a number refers to. -/
def numberedChar (n : Nat) : Char :=
  if n = 0 ∨ 0x10FFFF < n ∨ (0xD800 ≤ n ∧ n ≤ 0xDFFF) then replacementChar
  else Char.ofNat ((controlImages.lookup n).getD n)

/-- Whether a character is a letter or digit of ASCII. -/
def isAsciiAlphanumeric (c : Char) : Bool :=
  c.isAlphanum

/-- The characters that a reference stands for and the number of characters it is written
with, not counting the ampersand. -/
abbrev Reference := List Char × Nat

/-- Reads digits of a base and the optional semicolon; `before` is the number of characters
that were read already. -/
def readNumber? (isDigit : Char → Bool) (base before : Nat) (cs : List Char) :
    Option Reference :=
  let digits := cs.takeWhile isDigit
  if digits.isEmpty then none
  else
    let n := digits.foldl (fun n c => n * base + (hexDigit? c).getD 0) 0
    let semicolon := match cs.drop digits.length with
      | ';' :: _ => 1
      | _ => 0
    some ([numberedChar n], before + digits.length + semicolon)

/-- Reads a named reference. -/
def readNamed? (inAttribute : Bool) (cs : List Char) : Option Reference :=
  match longestEntityAt cs (min longestEntity cs.length) with
  | none => none
  | some (value, length) =>
      let closed := match cs.drop (length - 1) with
        | ';' :: _ => true
        | _ => false
      let continued := match cs.drop length with
        | c :: _ => c = '=' || isAsciiAlphanumeric c
        | [] => false
      if inAttribute && !closed && continued then none else some (value, length)

/-- Reads the reference that stands after an ampersand. -/
def readReference? (inAttribute : Bool) : List Char → Option Reference
  | '#' :: 'x' :: cs => readNumber? (fun c => (hexDigit? c).isSome) 16 2 cs
  | '#' :: 'X' :: cs => readNumber? (fun c => (hexDigit? c).isSome) 16 2 cs
  | '#' :: cs => readNumber? Char.isDigit 10 1 cs
  | cs => readNamed? inAttribute cs

/-- Replaces the references in a text. The first `skip` characters belong to the reference
read last, and `done` holds the result so far, reversed. -/
def resolveFrom (inAttribute : Bool) : (skip : Nat) → List Char → (done : List Char) → List Char
  | _, [], done => done.reverse
  | skip + 1, _ :: cs, done => resolveFrom inAttribute skip cs done
  | 0, c :: cs, done =>
      if c = '&' then
        match readReference? inAttribute cs with
        | some (value, length) => resolveFrom inAttribute length cs (value.reverse ++ done)
        | none => resolveFrom inAttribute 0 cs (c :: done)
      else resolveFrom inAttribute 0 cs (c :: done)

/-- Replaces the references in a text. -/
def resolveReferences (inAttribute : Bool) (cs : List Char) : List Char :=
  resolveFrom inAttribute 0 cs []

end Harvest.Html
