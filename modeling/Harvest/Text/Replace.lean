/-!
# Replacing a Fixed Text

`replaceAll old new` replaces every occurrence of `old`, left to right and without
overlap. The empty text occurs before every character and at the end.
-/

namespace Harvest.Text

/-- The rest of a text after a given start. -/
def dropStart? : List Char → List Char → Option (List Char)
  | [], cs => some cs
  | _ :: _, [] => none
  | s :: start, c :: cs => if s = c then dropStart? start cs else none

/-- Replaces the occurrences of a nonempty text. The first `skip` characters belong to the
occurrence that was replaced last. -/
def replaceFrom (old new : List Char) : (skip : Nat) → List Char → List Char → List Char
  | _, [], done => done.reverse
  | skip + 1, _ :: cs, done => replaceFrom old new skip cs done
  | 0, c :: cs, done =>
      match dropStart? old (c :: cs) with
      | some _ => replaceFrom old new (old.length - 1) cs (new.reverse ++ done)
      | none => replaceFrom old new 0 cs (c :: done)

/-- Replaces every occurrence of `old` by `new`. -/
def replaceAll (old new cs : List Char) : List Char :=
  if old.isEmpty then new ++ cs.flatMap fun c => c :: new
  else replaceFrom old new 0 cs []

end Harvest.Text
