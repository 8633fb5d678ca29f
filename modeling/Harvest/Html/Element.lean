import Harvest.Html.Node

/-!
# Elements in Their Surroundings

Selectors ask for more of an element than what is in it: its parent, its siblings, whether
it is the root of its document. A `Place` is an element together with these surroundings,
and an `ElementTree` is the tree of places below an element, texts and comments left out.

The contents of a template are no children of it, so the tree does not enter them.
-/

namespace Harvest.Html

/-- An element in its surroundings. -/
structure Place where
  /-- The name of the element. -/
  name : Name
  /-- Its attributes. -/
  attributes : List Attribute
  /-- The nodes in it. -/
  children : List Node
  /-- The siblings before it, the nearest first. -/
  before : List Node
  /-- The siblings after it, the nearest first. -/
  after : List Node
  /-- The element it lies in. -/
  parent : Option Place
  /-- Whether it is the root of a complete document. -/
  isRoot : Bool

namespace Place

/-- The element as a node. -/
def node (p : Place) : Node :=
  .element p.name p.attributes p.children

/-- The elements of a list of siblings in their surroundings; `before` holds the siblings
that were passed, the nearest first. -/
def ofSiblings (parent : Option Place) (before : List Node) : List Node → List Place
  | [] => []
  | n :: ns =>
      match n with
      | .element name attributes children =>
          ⟨name, attributes, children, before, ns, parent, false⟩ ::
            ofSiblings parent (n :: before) ns
      | _ => ofSiblings parent (n :: before) ns

/-- The elements of a list of siblings that is read backward. -/
def ofSiblingsBackward (parent : Option Place) (after : List Node) : List Node → List Place
  | [] => []
  | n :: ns =>
      match n with
      | .element name attributes children =>
          ⟨name, attributes, children, ns, after, parent, false⟩ ::
            ofSiblingsBackward parent (n :: after) ns
      | _ => ofSiblingsBackward parent (n :: after) ns

/-- The elements directly below an element. -/
def childElements (p : Place) : List Place :=
  ofSiblings (some p) [] p.children

/-- The sibling elements after an element, the nearest first. -/
def following (p : Place) : List Place :=
  ofSiblings p.parent (p.node :: p.before) p.after

/-- The sibling elements before an element, the nearest first. -/
def preceding (p : Place) : List Place :=
  ofSiblingsBackward p.parent (p.node :: p.after) p.before

/-- The elements that an element lies in, the innermost first. -/
def ancestors (p : Place) : List Place :=
  match p with
  | ⟨_, _, _, _, _, none, _⟩ => []
  | ⟨_, _, _, _, _, some q, _⟩ => q :: q.ancestors

/-- The value of an attribute that belongs to no vocabulary. -/
def attribute? (p : Place) (key : String) : Option String :=
  Html.attribute? p.attributes key

end Place

/-- An element with the elements below it. -/
inductive ElementTree where
  /-- An element and the trees of its children. -/
  | node (place : Place) (children : List ElementTree)

namespace ElementTree

/-- The element at the top. -/
def place : ElementTree → Place
  | .node place _ => place

/-- The trees of its children. -/
def children : ElementTree → List ElementTree
  | .node _ children => children

mutual

/-- The tree of an element, given its surroundings; `none` for other nodes. -/
def ofNode? (parent : Option Place) (before after : List Node) (isRoot : Bool) :
    Node → Option ElementTree
  | .element name attributes children =>
      let place : Place := ⟨name, attributes, children, before, after, parent, isRoot⟩
      some (.node place (ofNodes (some place) [] false children))
  | .text _ => none
  | .comment _ => none
  | .doctype _ => none
  | .fragment _ => none

/-- The trees of the elements in a list of siblings. -/
def ofNodes (parent : Option Place) (before : List Node) (isRoot : Bool) :
    List Node → List ElementTree
  | [] => []
  | n :: ns =>
      (ofNode? parent before ns isRoot n).toList ++ ofNodes parent (n :: before) isRoot ns

end

mutual

/-- The elements of a tree, the topmost first, in the order of the document. -/
def places : ElementTree → List Place
  | .node place children => place :: placesOfList children

/-- The elements of a list of trees, in the order of the document. -/
def placesOfList : List ElementTree → List Place
  | [] => []
  | t :: ts => t.places ++ placesOfList ts

end

end ElementTree

/-- All elements below an element, in the order of the document. -/
def Place.descendants (p : Place) : List Place :=
  ElementTree.placesOfList (ElementTree.ofNodes (some p) [] false p.children)

end Harvest.Html
