/-!
# Markup Nodes

A parsed document is a tree of nodes. Elements carry a name in a namespace, attributes and
children. The contents of a template are kept apart from its children in a fragment node of
their own, which counts for text and markup and not for the search of elements.
-/

namespace Harvest.Html

/-- The vocabulary that a name belongs to. -/
inductive Namespace where
  /-- No vocabulary, as for most attributes. -/
  | none
  /-- Hypertext. -/
  | html
  /-- Formulas. -/
  | mathml
  /-- Vector graphics. -/
  | svg
  /-- Links between resources. -/
  | xlink
  /-- The attributes that every vocabulary shares. -/
  | xml
  /-- The declarations of vocabularies. -/
  | xmlns
  deriving DecidableEq, Repr

/-- A name in a vocabulary. -/
structure Name where
  /-- The vocabulary. -/
  space : Namespace
  /-- The name in it. -/
  text : String
  deriving DecidableEq, Repr

/-- A name of the hypertext vocabulary. -/
def Name.html (text : String) : Name :=
  ⟨.html, text⟩

/-- An attribute of an element. -/
structure Attribute where
  /-- The name. -/
  name : Name
  /-- The value. -/
  value : String
  deriving DecidableEq, Repr

/-- A node of a document. -/
inductive Node where
  /-- An element. -/
  | element (name : Name) (attributes : List Attribute) (children : List Node)
  /-- A text. -/
  | text (content : String)
  /-- A comment. -/
  | comment (content : String)
  /-- The declaration of the document's type. -/
  | doctype (name : String)
  /-- The contents of a template. -/
  | fragment (children : List Node)

namespace Node

instance : Inhabited Node := ⟨.text ""⟩

/-- Whether a node is an element. -/
def isElement : Node → Bool
  | .element _ _ _ => true
  | _ => false

/-- Whether a node is a text. -/
def isText : Node → Bool
  | .text _ => true
  | _ => false

/-- The nodes directly below a node. -/
def children : Node → List Node
  | .element _ _ children => children
  | .fragment children => children
  | _ => []

mutual

/-- The texts at and below a node, in order. -/
def texts : Node → List String
  | .element _ _ children => textsOfList children
  | .text content => [content]
  | .comment _ => []
  | .doctype _ => []
  | .fragment children => textsOfList children

/-- The texts at and below the nodes of a list, in order. -/
def textsOfList : List Node → List String
  | [] => []
  | n :: ns => n.texts ++ textsOfList ns

end

/-- The texts below a list of nodes as one text. -/
def textContent (nodes : List Node) : String :=
  String.join (textsOfList nodes)

end Node

/-- The value of an attribute that belongs to no vocabulary. -/
def attribute? (attributes : List Attribute) (key : String) : Option String :=
  (attributes.find? fun a => a.name = ⟨.none, key⟩).map Attribute.value

end Harvest.Html
