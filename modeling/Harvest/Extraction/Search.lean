import Harvest.Extraction.Error
import Harvest.Html.Element
import Harvest.Pattern.Rule

/-!
# Searching a Tree

A search for a rule goes through elements and offers those that the rule's selector matches
to a function that accepts or rejects them, and that may write to a state or fail. An
element comes after everything below it, and siblings come in the order of the document.

* `search`: the search through the trees below a context.
* `ElementTree.postorder`: the elements in the order in which they come.
-/

namespace Harvest.Extraction

open Html

/-- A computation that writes to a state of type `σ` and may fail. What was written before a
failure stays written. -/
abbrev Writing (σ : Type) := ExceptT FindError (StateM σ)

/-- The result of a search for a rule. -/
inductive Verdict where
  /-- The rule is optional, or something was found. -/
  | matched
  /-- The rule is required, and nothing was found. -/
  | noMatch
  deriving DecidableEq, Repr

/-- The verdict on a rule for which so many things were found. -/
def verdict (heading : Pattern.Heading) (findings : Nat) : Verdict :=
  if heading.optional || decide (0 < findings) then .matched else .noMatch

variable {σ : Type}

mutual

/-- Searches a tree and counts what is found: a search below the element that comes out as
matched is one thing, and the element is another one if it is accepted. -/
def searchTree (heading : Pattern.Heading) (accept : ElementTree → Writing σ Bool) :
    ElementTree → Writing σ Nat
  | .node place children => do
      let below ← searchTrees heading accept children
      let found := if verdict heading below = .matched then 1 else 0
      if heading.selector.matches place then
        let accepted ← accept (.node place children)
        pure (if accepted then found + 1 else found)
      else pure found

/-- Searches a list of trees and counts what is found. -/
def searchTrees (heading : Pattern.Heading) (accept : ElementTree → Writing σ Bool) :
    List ElementTree → Writing σ Nat
  | [] => pure 0
  | t :: ts => do
      let found ← searchTree heading accept t
      let more ← searchTrees heading accept ts
      pure (found + more)

end

/-- Searches a list of trees for a rule. -/
def search (heading : Pattern.Heading) (accept : ElementTree → Writing σ Bool)
    (trees : List ElementTree) : Writing σ Verdict := do
  let findings ← searchTrees heading accept trees
  pure (verdict heading findings)

end Harvest.Extraction

namespace Harvest.Html.ElementTree

mutual

/-- The elements of a tree, each with the tree below it, children before their parent. -/
def postorder : ElementTree → List ElementTree
  | .node place children => postorderOfList children ++ [.node place children]

/-- The elements of a list of trees, children before their parents. -/
def postorderOfList : List ElementTree → List ElementTree
  | [] => []
  | t :: ts => t.postorder ++ postorderOfList ts

end

end Harvest.Html.ElementTree
