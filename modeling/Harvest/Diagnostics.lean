/-!
# The Words of Other Readers

Selectors and regular expressions have readers of their own, and a reader that refuses a text
says why in words of its own. Which texts are refused is described in this library. The words
are not: they are given from outside, and a fault only carries them to where it is reported.
Of a text that is refused they depend on nothing but the text.

A fault may have a cause, and that one a cause of its own. They are written one after the
other. Where no words are given, the cause that they would describe is left out.
-/

namespace Harvest

/-- What the readers of selectors and of regular expressions say about texts they refuse. -/
class Diagnostics where
  /-- The words about a selector. -/
  selector : (text : String) → String
  /-- The words about a regular expression. -/
  expression : (source : String) → String

/-- No words at all, where none are given. -/
instance (priority := low) Diagnostics.silent : Diagnostics :=
  ⟨fun _ => "", fun _ => ""⟩

/-- A message and its causes, the outermost first. Causes without words are left out. -/
def messageOfChain (texts : List String) : String :=
  ": ".intercalate (texts.filter fun text => !text.isEmpty)

end Harvest
