import Harvest.Html.Node

/-!
# Trees under Construction

While a document is read, its tree is kept in numbered slots, since nodes are moved and
looked up by identity. A slot knows its parent and its children, and a node without parent
belongs to no tree yet. When reading is over, the slots are turned into a `Node`.

Texts never lie side by side: text that is put next to a text is added to it.
-/

namespace Harvest.Html

/-- What a slot holds, its children apart. -/
inductive Content where
  /-- An element. -/
  | element (name : Name) (attributes : List Attribute)
  /-- A text. -/
  | text (content : String)
  /-- A comment. -/
  | comment (content : String)
  /-- A document type. -/
  | doctype (name : String)
  /-- A document, or the contents of a template. -/
  | fragment

/-- A node under construction. -/
structure Slot where
  /-- What the node is. -/
  content : Content
  /-- The number of the parent. -/
  parent : Option Nat
  /-- The numbers of the children, in order. -/
  children : Array Nat

instance : Inhabited Slot := ⟨⟨.fragment, none, #[]⟩⟩

/-- A tree under construction. -/
structure Draft where
  /-- The nodes by their numbers. -/
  slots : Array Slot

namespace Draft

/-- A draft that holds one node, number zero, for the document. -/
def empty : Draft := ⟨#[⟨.fragment, none, #[]⟩]⟩

/-- The number of the document's node. -/
def document : Nat := 0

/-- The node of a number. -/
def slot (d : Draft) (i : Nat) : Slot :=
  d.slots[i]?.getD default

/-- Changes the node of a number. -/
def modify (d : Draft) (i : Nat) (f : Slot → Slot) : Draft :=
  ⟨d.slots.modify i f⟩

/-- Adds a node that has no parent yet. -/
def create (d : Draft) (content : Content) : Draft × Nat :=
  (⟨d.slots.push ⟨content, none, #[]⟩⟩, d.slots.size)

/-- The name of an element. -/
def name? (d : Draft) (i : Nat) : Option Name :=
  match (d.slot i).content with
  | .element name _ => some name
  | _ => none

/-- Takes a node from its parent. -/
def detach (d : Draft) (i : Nat) : Draft :=
  match (d.slot i).parent with
  | none => d
  | some p =>
      (d.modify p fun s => { s with children := s.children.filter (· != i) }).modify i
        fun s => { s with parent := none }

/-- Makes a node the last child of another. -/
def append (d : Draft) (parent child : Nat) : Draft :=
  ((d.detach child).modify parent fun s => { s with children := s.children.push child }).modify
    child fun s => { s with parent := some parent }

/-- Inserts an item into an array before the first item equal to `mark`. -/
def insertBeforeMark (mark item : Nat) (xs : Array Nat) : Array Nat :=
  xs.foldl (fun acc x => if x = mark then (acc.push item).push x else acc.push x) #[]

/-- Inserts a node before a sibling. A sibling without parent leaves it detached. -/
def insertBefore (d : Draft) (sibling child : Nat) : Draft :=
  let d := d.detach child
  match (d.slot sibling).parent with
  | none => d
  | some p =>
      (d.modify p fun s => { s with children := insertBeforeMark sibling child s.children }).modify
        child fun s => { s with parent := some p }

/-- Adds characters to the end of a text node. -/
def extendText (d : Draft) (i : Nat) (run : List Char) : Draft :=
  d.modify i fun s =>
    match s.content with
    | .text content => { s with content := .text (run.foldl String.push content) }
    | _ => s

/-- Whether a node is a text. -/
def isText (d : Draft) (i : Nat) : Bool :=
  match (d.slot i).content with
  | .text _ => true
  | _ => false

/-- Adds text at the end of a node's children. -/
def appendText (d : Draft) (parent : Nat) (run : List Char) : Draft :=
  match (d.slot parent).children.back? with
  | some last =>
      if d.isText last then d.extendText last run
      else
        let (d, i) := d.create (.text (String.ofList run))
        d.append parent i
  | none =>
      let (d, i) := d.create (.text (String.ofList run))
      d.append parent i

/-- The sibling right before a node. -/
def previous? (d : Draft) (i : Nat) : Option Nat :=
  match (d.slot i).parent with
  | none => none
  | some p => (((d.slot p).children.toList.takeWhile (· != i)).getLast?)

/-- Adds text right before a node. -/
def insertTextBefore (d : Draft) (sibling : Nat) (run : List Char) : Draft :=
  match d.previous? sibling with
  | some before =>
      if d.isText before then d.extendText before run
      else
        let (d, i) := d.create (.text (String.ofList run))
        d.insertBefore sibling i
  | none =>
      let (d, i) := d.create (.text (String.ofList run))
      d.insertBefore sibling i

/-- Moves all children of a node to the end of another's. -/
def moveChildren (d : Draft) (source target : Nat) : Draft :=
  (d.slot source).children.foldl (fun d child => d.append target child) d

/-- Adds those attributes whose names an element does not have yet. -/
def addMissing (d : Draft) (i : Nat) (attributes : List Attribute) : Draft :=
  d.modify i fun s =>
    match s.content with
    | .element name old =>
        let missing := attributes.filter fun a => !old.any fun b => a.name = b.name
        { s with content := .element name (old ++ missing) }
    | _ => s

/-- The node of a number as a finished tree. A tree is no deeper than its draft has slots,
which bounds the recursion by `fuel`. -/
def toNode (d : Draft) : (fuel : Nat) → Nat → Node
  | 0, _ => .fragment []
  | fuel + 1, i =>
      let s := d.slot i
      let children := s.children.toList.map (d.toNode fuel)
      match s.content with
      | .element name attributes => .element name attributes children
      | .text content => .text content
      | .comment content => .comment content
      | .doctype name => .doctype name
      | .fragment => .fragment children

/-- The finished tree. -/
def finish (d : Draft) : List Node :=
  (d.toNode (d.slots.size + 1) document).children

end Draft

end Harvest.Html
