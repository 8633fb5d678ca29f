import Harvest.Html.Draft
import Harvest.Html.Token

/-!
# The State of Tree Building

A document is built from its tokens by rules that depend on an *insertion mode*. Beside the
tree itself, the rules keep a stack of open elements, the innermost first, and a list of
*formatting* elements, such as bold or links, that are opened again after they were cut off
by a misnested end tag. Markers in that list shield cells, captions and templates from the
formatting around them.

This module holds the state and its operations; the rules are in the modules after it.
-/

namespace Harvest.Html

/-- The insertion modes. -/
inductive Mode where
  /-- Before the document type. -/
  | initial
  /-- Before the root element. -/
  | beforeRoot
  /-- Before the head. -/
  | beforeHead
  /-- In the head. -/
  | inHead
  /-- Between head and body. -/
  | afterHead
  /-- In the body. -/
  | inBody
  /-- In an element whose contents are no markup. -/
  | inText
  /-- In a table. -/
  | inTable
  /-- In text directly in a table. -/
  | inTableText
  /-- In the caption of a table. -/
  | inCaption
  /-- In a group of columns. -/
  | inColumns
  /-- In a section of a table. -/
  | inTableBody
  /-- In a row of a table. -/
  | inRow
  /-- In a cell of a table. -/
  | inCell
  /-- In a selection. -/
  | inSelect
  /-- In a selection in a table. -/
  | inSelectInTable
  /-- In a template. -/
  | inTemplate
  /-- After the body. -/
  | afterBody
  /-- In a set of frames. -/
  | inFrames
  /-- After the sets of frames. -/
  | afterFrames
  /-- After the root element. -/
  | afterRoot
  /-- After the root element of a document of frames. -/
  | afterFramesRoot
  deriving DecidableEq, Repr

/-- How the text after a tag is read. -/
inductive Reading where
  /-- As markup. -/
  | markup
  /-- As text with references, up to the end tag of that name. -/
  | escapable (name : String)
  /-- As text without references, up to the end tag of that name. -/
  | verbatim (name : String)
  /-- As a script. -/
  | script
  /-- As text, up to the end of the document. -/
  | plain
  deriving DecidableEq, Repr

/-- An entry of the list of formatting elements. -/
inductive Formatting where
  /-- A marker. -/
  | marker
  /-- An element with the tag it was made from. -/
  | element (node : Nat) (tag : Tag)

/-- Whether an entry is that of a node. -/
def Formatting.isOf (f : Formatting) (i : Nat) : Bool :=
  match f with
  | .marker => false
  | .element j _ => i = j

/-- The state of tree building. -/
structure Builder where
  /-- The tree. -/
  draft : Draft
  /-- The insertion mode. -/
  mode : Mode
  /-- The mode to go back to after a text. -/
  returnMode : Mode
  /-- The modes of the open templates, innermost first. -/
  templateModes : List Mode
  /-- The text collected directly in a table, latest run first. -/
  tableText : List Token
  /-- The open elements, innermost first. -/
  openElements : List Nat
  /-- The formatting elements, latest first. -/
  formatting : List Formatting
  /-- The head element. -/
  head : Option Nat
  /-- The form that has been opened and not closed. -/
  form : Option Nat
  /-- Whether a paragraph may hold a table, as in documents without a modern type. -/
  lenient : Bool
  /-- Whether a set of frames may still take the place of the body. -/
  framesAllowed : Bool
  /-- Whether a newline at the start of the next text is dropped. -/
  skipsNewline : Bool
  /-- Whether nodes that do not belong into a table are put before it. -/
  fosters : Bool
  /-- Whether a fragment is read, as if it stood in a body. -/
  isFragment : Bool
  /-- How the text that follows is read. -/
  reading : Reading

/-- What a rule does with a token: it is done, or has the token treated once more by the
rules of the mode it has set. -/
inductive Outcome where
  /-- The token has been dealt with. -/
  | done (b : Builder)
  /-- The token is to be treated again. -/
  | again (b : Builder)

/-- Whether a name is one of the given names of the hypertext vocabulary. -/
def Name.isAmong (names : List String) (n : Name) : Bool :=
  n.space = .html && names.contains n.text

/-! ### Groups of elements -/

/-- The elements of formulas whose contents are text. -/
def isFormulaText (n : Name) : Bool :=
  n.space = .mathml && ["mi", "mo", "mn", "ms", "mtext"].contains n.text

/-- The elements of graphics whose contents are hypertext. -/
def isGraphicsText (n : Name) : Bool :=
  n.space = .svg && ["foreignObject", "desc", "title"].contains n.text

/-- The elements that bound every search for an open element. -/
def bounds (n : Name) : Bool :=
  n.isAmong ["applet", "caption", "html", "table", "td", "th", "marquee", "object", "template"] ||
    isFormulaText n || isGraphicsText n

/-- The elements that bound the search for a list item. -/
def boundsItem (n : Name) : Bool :=
  bounds n || n.isAmong ["ol", "ul"]

/-- The elements that bound the search for a paragraph. -/
def boundsButton (n : Name) : Bool :=
  bounds n || n.isAmong ["button"]

/-- The elements that bound the search for a part of a table. -/
def boundsTable : Name → Bool :=
  Name.isAmong ["html", "table", "template"]

/-- The elements that bound the search for a selection. -/
def boundsSelect (n : Name) : Bool :=
  !n.isAmong ["optgroup", "option"]

/-- The elements that are closed when an element around them is. -/
def impliedNames : List String :=
  ["dd", "dt", "li", "option", "optgroup", "p", "rb", "rp", "rt", "rtc"]

/-- The elements that are closed when a template around them is. -/
def thoroughlyImpliedNames : List String :=
  impliedNames ++ ["caption", "colgroup", "tbody", "td", "tfoot", "th", "thead", "tr"]

/-- The headings. -/
def headingNames : List String :=
  ["h1", "h2", "h3", "h4", "h5", "h6"]

/-- The elements that no misnested end tag reaches through. -/
def specialNames : List String :=
  ["address", "applet", "area", "article", "aside", "base", "basefont", "bgsound", "blockquote",
    "body", "br", "button", "caption", "center", "col", "colgroup", "dd", "details", "dir", "div",
    "dl", "dt", "embed", "fieldset", "figcaption", "figure", "footer", "form", "frame", "frameset",
    "h1", "h2", "h3", "h4", "h5", "h6", "head", "header", "hgroup", "hr", "html", "iframe", "img",
    "input", "isindex", "li", "link", "listing", "main", "marquee", "menu", "meta", "nav",
    "noembed", "noframes", "noscript", "object", "ol", "p", "param", "plaintext", "pre", "script",
    "section", "select", "source", "style", "summary", "table", "tbody", "td", "template",
    "textarea", "tfoot", "th", "thead", "title", "tr", "track", "ul", "wbr", "xmp"]

/-- The parts of a table that do not take other nodes. -/
def fosteringNames : List String :=
  ["table", "tbody", "tfoot", "thead", "tr"]

/-- Attributes of a tag as attributes of a hypertext element. -/
def plainAttributes (attributes : List (String × String)) : List Attribute :=
  attributes.map fun a => ⟨⟨.none, a.1⟩, a.2⟩

namespace Builder

/-! ### The open elements -/

/-- The name of a node. -/
def nameOf (b : Builder) (i : Nat) : Name :=
  (b.draft.name? i).getD ⟨.none, ""⟩

/-- The innermost open element. -/
def current (b : Builder) : Nat :=
  b.openElements.headD Draft.document

/-- Whether the innermost open element has one of the given names. -/
def currentIs (b : Builder) (names : List String) : Bool :=
  (b.nameOf b.current).isAmong names

/-- Closes the innermost open element. -/
def pop (b : Builder) : Builder :=
  { b with openElements := b.openElements.tail }

/-- Opens an element. -/
def push (b : Builder) (i : Nat) : Builder :=
  { b with openElements := i :: b.openElements }

/-- Closes an element wherever it is in the stack. -/
def close (b : Builder) (i : Nat) : Builder :=
  { b with openElements := b.openElements.filter (· != i) }

/-- Whether some open element has the given name. -/
def hasOpen (b : Builder) (name : String) : Bool :=
  b.openElements.any fun i => (b.nameOf i).isAmong [name]

/-- Whether an open element that satisfies `p` is found, innermost first, before the search
meets an element that bounds it. -/
def scopeHas (b : Builder) (isBound : Name → Bool) (p : Nat → Bool) : List Nat → Bool
  | [] => false
  | i :: rest =>
      if p i then true
      else if isBound (b.nameOf i) then false
      else b.scopeHas isBound p rest

/-- Whether an element of one of the given names is in scope. -/
def inScope (b : Builder) (isBound : Name → Bool) (names : List String) : Bool :=
  b.scopeHas isBound (fun i => (b.nameOf i).isAmong names) b.openElements

/-- Closes open elements as long as `p` holds of the innermost one. -/
def popWhile (b : Builder) (p : Name → Bool) : Builder :=
  { b with openElements := b.openElements.dropWhile fun i => p (b.nameOf i) }

/-- Closes the elements that are closed without an end tag. -/
def closeImplied (b : Builder) : Builder :=
  b.popWhile (Name.isAmong impliedNames)

/-- Closes the elements that are closed without an end tag, those of one name excepted. -/
def closeImpliedExcept (b : Builder) (name : String) : Builder :=
  b.popWhile fun n => n.isAmong impliedNames && n.text != name

/-- Closes elements up to and with one of the given names. -/
def popThrough (b : Builder) (names : List String) : Builder :=
  (b.popWhile fun n => !n.isAmong names).pop

/-- Closes elements down to one of the given names. -/
def popTo (b : Builder) (names : List String) : Builder :=
  b.popWhile fun n => !n.isAmong names

/-- Closes a paragraph. -/
def closeParagraph (b : Builder) : Builder :=
  (b.closeImpliedExcept "p").popThrough ["p"]

/-- Closes a paragraph if one is in scope. -/
def closeParagraphInScope (b : Builder) : Builder :=
  if b.inScope boundsButton ["p"] then b.closeParagraph else b

/-- The body, if it is open. -/
def body? (b : Builder) : Option Nat :=
  match b.openElements.reverse with
  | _ :: i :: _ => if (b.nameOf i).isAmong ["body"] then some i else none
  | _ => none

/-- The root element. -/
def root (b : Builder) : Nat :=
  b.openElements.getLastD Draft.document

/-! ### Placing nodes -/

/-- A place for a new node. -/
inductive Place where
  /-- At the end of a node's children. -/
  | lastChild (parent : Nat)
  /-- Before a node. -/
  | before (sibling : Nat)

/-- The node that takes the children of an element: a template's contents lie in a node of
their own. -/
def holder (b : Builder) (i : Nat) : Nat :=
  if (b.nameOf i).isAmong ["template"] then (b.draft.slot i).children[0]?.getD i else i

/-- The place for a node that does not belong into a table: before the innermost table, or
in the innermost template if that is closer. -/
def fosterPlace (b : Builder) : List Nat → Place
  | [] => .lastChild b.root
  | i :: rest =>
      if (b.nameOf i).isAmong ["template"] then .lastChild (b.holder i)
      else if (b.nameOf i).isAmong ["table"] then
        if (b.draft.slot i).parent.isSome then .before i
        else .lastChild (rest.headD b.root)
      else b.fosterPlace rest

/-- The place for a new node that belongs into `target`. -/
def placeIn (b : Builder) (target : Nat) : Place :=
  if b.fosters && (b.nameOf target).isAmong fosteringNames then b.fosterPlace b.openElements
  else .lastChild (b.holder target)

/-- Puts a node at a place. -/
def put (b : Builder) (place : Place) (i : Nat) : Builder :=
  match place with
  | .lastChild parent => { b with draft := b.draft.append parent i }
  | .before sibling => { b with draft := b.draft.insertBefore sibling i }

/-- Adds a text to the innermost open element. -/
def addText (b : Builder) (run : List Char) : Builder :=
  match b.placeIn b.current with
  | .lastChild parent => { b with draft := b.draft.appendText parent run }
  | .before sibling => { b with draft := b.draft.insertTextBefore sibling run }

/-- Adds a comment to a node. -/
def addCommentTo (b : Builder) (parent : Nat) (content : String) : Builder :=
  let (draft, i) := b.draft.create (.comment content)
  { b with draft := draft.append parent i }

/-- Adds a comment to the innermost open element. -/
def addComment (b : Builder) (content : String) : Builder :=
  let (draft, i) := b.draft.create (.comment content)
  { b with draft }.put (b.placeIn b.current) i

/-- Makes an element that is not placed yet. A template gets a node for its contents. -/
def create (b : Builder) (name : Name) (attributes : List Attribute) : Builder × Nat :=
  let (draft, i) := b.draft.create (.element name attributes)
  if name = .html "template" then
    let (draft, contents) := draft.create .fragment
    ({ b with draft := draft.append i contents }, i)
  else ({ b with draft }, i)

/-- Makes an element and places it; it is not opened. -/
def insert (b : Builder) (name : Name) (attributes : List Attribute) : Builder × Nat :=
  let (b, i) := b.create name attributes
  (b.put (b.placeIn b.current) i, i)

/-- Makes an element for a tag and opens it. -/
def insertTag (b : Builder) (tag : Tag) : Builder :=
  let (b, i) := b.insert (.html tag.name) (plainAttributes tag.attributes)
  b.push i

/-- Makes an element for a tag that has no contents. -/
def insertVoid (b : Builder) (tag : Tag) : Builder :=
  (b.insert (.html tag.name) (plainAttributes tag.attributes)).1

/-- Makes and opens an element that no tag stands for. -/
def insertMissing (b : Builder) (name : String) : Builder :=
  b.insertTag ⟨name, [], false⟩

/-- Makes an element whose contents are no markup. -/
def insertText (b : Builder) (tag : Tag) (reading : Reading) : Builder :=
  let b := b.insertTag tag
  { b with returnMode := b.mode, mode := .inText, reading }

/-- Makes the root element. -/
def createRoot (b : Builder) (attributes : List (String × String)) : Builder :=
  let (b, i) := b.create (.html "html") (plainAttributes attributes)
  (b.put (.lastChild Draft.document) i).push i

/-- Adds the attributes of a tag that an element does not have yet. -/
def addMissing (b : Builder) (i : Nat) (tag : Tag) : Builder :=
  { b with draft := b.draft.addMissing i (plainAttributes tag.attributes) }

/-! ### Formatting elements -/

/-- The formatting elements after the last marker, latest first. -/
def recentFormatting (b : Builder) : List (Nat × Tag) :=
  (b.formatting.takeWhile fun f => match f with
    | .marker => false
    | .element _ _ => true).filterMap fun f => match f with
      | .marker => none
      | .element i tag => some (i, tag)

/-- Whether a node is a formatting element. -/
def isFormatting (b : Builder) (i : Nat) : Bool :=
  b.formatting.any (Formatting.isOf · i)

/-- Removes a node from the formatting elements. -/
def dropFormatting (b : Builder) (i : Nat) : Builder :=
  { b with formatting := b.formatting.filter fun f => !f.isOf i }

/-- Adds a marker. -/
def addMarker (b : Builder) : Builder :=
  { b with formatting := .marker :: b.formatting }

/-- Removes the formatting elements up to and with the last marker. -/
def clearToMarker (b : Builder) : Builder :=
  { b with formatting := (b.formatting.dropWhile fun f => match f with
      | .marker => false
      | .element _ _ => true).tail }

/-- Whether two tags make elements that differ in nothing. -/
def sameTag (s t : Tag) : Bool :=
  s.name = t.name && s.attributes.length = t.attributes.length &&
    s.attributes.all fun a => t.attributes.contains a

/-- Makes a formatting element for a tag. Of elements that differ in nothing, at most three
are kept after the last marker. -/
def insertFormatting (b : Builder) (tag : Tag) : Builder :=
  let same := b.recentFormatting.filter fun f => sameTag tag f.2
  let b := if 3 ≤ same.length then
      match same.getLast? with
      | some (i, _) => b.dropFormatting i
      | none => b
    else b
  let (b, i) := b.insert (.html tag.name) (plainAttributes tag.attributes)
  { b.push i with formatting := .element i tag :: b.formatting }

/-- Whether an entry needs no reopening: a marker, or an element that is open. -/
def isSettled (b : Builder) : Formatting → Bool
  | .marker => true
  | .element i _ => b.openElements.contains i

/-- Opens again the given formatting elements, earliest first. -/
def reopen (b : Builder) : List Formatting → Builder
  | [] => b
  | .marker :: rest => { b with formatting := .marker :: b.formatting }.reopen rest
  | .element _ tag :: rest =>
      let (b, i) := b.insert (.html tag.name) (plainAttributes tag.attributes)
      { b.push i with formatting := .element i tag :: b.formatting }.reopen rest

/-- Opens again the formatting elements that were cut off: all after the last settled one. -/
def reopenFormatting (b : Builder) : Builder :=
  let cut := b.formatting.takeWhile fun f => !b.isSettled f
  { b with formatting := b.formatting.drop cut.length }.reopen cut.reverse

/-! ### The mode of a stack -/

/-- The mode that the open elements call for, innermost first. -/
def modeFor (b : Builder) : List Nat → Mode
  | [] => .inBody
  | i :: rest =>
      let last := rest.isEmpty
      let name := if last && b.isFragment then Name.html "body" else b.nameOf i
      if name.space ≠ .html then b.modeFor rest
      else if name.text = "select" then
        let around := rest.filter fun j => (b.nameOf j).isAmong ["template", "table"]
        match around with
        | j :: _ => if (b.nameOf j).isAmong ["table"] then .inSelectInTable else .inSelect
        | [] => .inSelect
      else if ["td", "th"].contains name.text && !last then .inCell
      else if name.text = "tr" then .inRow
      else if ["tbody", "thead", "tfoot"].contains name.text then .inTableBody
      else if name.text = "caption" then .inCaption
      else if name.text = "colgroup" then .inColumns
      else if name.text = "table" then .inTable
      else if name.text = "template" then b.templateModes.headD .inTemplate
      else if name.text = "head" && !last then .inHead
      else if name.text = "body" then .inBody
      else if name.text = "frameset" then .inFrames
      else if name.text = "html" then if b.head.isSome then .afterHead else .beforeHead
      else b.modeFor rest

/-- Sets the mode that the open elements call for. -/
def resetMode (b : Builder) : Builder :=
  { b with mode := b.modeFor b.openElements }

/-- The state at the start of a document. -/
def start : Builder where
  draft := .empty
  mode := .initial
  returnMode := .initial
  templateModes := []
  tableText := []
  openElements := []
  formatting := []
  head := none
  form := none
  lenient := false
  framesAllowed := true
  skipsNewline := false
  fosters := false
  isFragment := false
  reading := .markup

/-- The state at the start of a fragment. -/
def startFragment : Builder :=
  ({ start with isFragment := true }.createRoot []).resetMode

end Builder

end Harvest.Html
