import Harvest.Text.CaseMapping
import Harvest.Text.Letter

/-!
# The Builtin Filters

Six filters are available to every pattern: `lower` and `upper` map case, `strip` removes
the blanks at both ends, `nocomma` removes commas, and `notags` and `tag2space` replace
tags by nothing and by a space.

A *tag* is a `<`, at least one character other than `>`, and a `>`. Tags are found from
left to right, each as far to the left as possible, and ends at the first `>` after it.
-/

namespace Harvest.Filter

/-- The rest of a text after the tag at its start, the opening `<` already taken off. -/
def afterTag? : List Char → Option (List Char)
  | [] => none
  | '>' :: _ => none
  | _ :: cs =>
      match cs.dropWhile (· != '>') with
      | _ :: rest => some rest
      | [] => none

/-- Replaces every tag. The first `skip` characters belong to the tag that was replaced
last, and `done` holds the result so far, reversed. -/
def replaceTagsFrom (fill : List Char) : (skip : Nat) → List Char → (done : List Char) → List Char
  | _, [], done => done.reverse
  | skip + 1, _ :: cs, done => replaceTagsFrom fill skip cs done
  | 0, c :: cs, done =>
      if c = '<' then
        match afterTag? cs with
        | some rest =>
            replaceTagsFrom fill (cs.length - rest.length) cs (fill.reverse ++ done)
        | none => replaceTagsFrom fill 0 cs (c :: done)
      else replaceTagsFrom fill 0 cs (c :: done)

/-- Replaces every tag of a text by `fill`. -/
def replaceTags (fill : List Char) (cs : List Char) : List Char :=
  replaceTagsFrom fill 0 cs []

/-- A function on characters as a function on texts. -/
def onChars (f : List Char → List Char) (s : String) : String :=
  String.ofList (f s.toList)

/-- The builtin filter of a name. -/
def builtin? (name : String) : Option (String → String) :=
  if name = "lower" then some Text.lower
  else if name = "upper" then some Text.upper
  else if name = "strip" then some (onChars Text.trim)
  else if name = "nocomma" then some (onChars fun cs => cs.filter (· != ','))
  else if name = "notags" then some (onChars (replaceTags []))
  else if name = "tag2space" then some (onChars (replaceTags [' ']))
  else none

end Harvest.Filter
