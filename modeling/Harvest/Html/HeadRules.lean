import Harvest.Html.Builder

/-!
# Rules up to the Body

The rules of the modes that come before the body: they create the root element, the head
and the body where the document leaves them out. The rules of the head are used in many
other modes too, for the elements that belong into a head wherever they stand.
-/

namespace Harvest.Html

/-! ### The type of the document -/

/-- The label of a public identifier with what follows it: an identifier names its owner, the
word `dtd` with a label, and a language, two slashes between them. -/
def publicLabel? (publicId : String) : Option (List Char) :=
  match afterWord? "-//".toList publicId.toList with
  | none => none
  | some cs =>
      let rec afterOwner : List Char → Option (List Char)
        | [] => none
        | '/' :: '/' :: cs => afterWord? "dtd ".toList cs
        | _ :: cs => afterOwner cs
      afterOwner cs

/-- Whether a label begins with a word. -/
def labelHas (label : List Char) (word : String) : Bool :=
  (afterWord? word.toList label).isSome

/-- Whether a document type is that of an old document, in which a paragraph may hold a
table. -/
def Doctype.isOld (d : Doctype) : Bool :=
  d.malformed || d.name != some "html" ||
    match d.publicId with
    | none => false
    | some publicId =>
        (afterWord? "html".toList publicId.toList = some []) ||
          match publicLabel? publicId with
          | none => false
          | some label =>
              if labelHas label "html 4.01 frameset//" || labelHas label "html 4.01 transitional//"
              then d.systemId.isNone
              else labelHas label "html" && !labelHas label "html 4.01//" &&
                !labelHas label "html 4.0//"

namespace Builder

/-- Before the document type. -/
def initial (b : Builder) : Token → Outcome
  | .blanks _ => .done b
  | .comment content => .done (b.addCommentTo Draft.document content)
  | .doctype d =>
      let (draft, i) := b.draft.create (.doctype (d.name.getD ""))
      .done { b with
        draft := draft.append Draft.document i
        lenient := d.isOld
        mode := .beforeRoot }
  | _ => .again { b with lenient := true, mode := .beforeRoot }

/-! ### Root and head -/

/-- The end tags that call for the elements that the document left out. -/
def closesMissing (tag : Tag) : Bool :=
  ["head", "body", "html", "br"].contains tag.name

/-- Before the root element. -/
def beforeRoot (b : Builder) (token : Token) : Outcome :=
  let missing := Outcome.again { b.createRoot [] with mode := .beforeHead }
  match token with
  | .blanks _ => .done b
  | .comment content => .done (b.addCommentTo Draft.document content)
  | .doctype _ => .done b
  | .startTag tag =>
      if tag.name = "html" then .done { b.createRoot tag.attributes with mode := .beforeHead }
      else missing
  | .endTag tag => if closesMissing tag then missing else .done b
  | _ => missing

/-- A start tag of the root element that comes late adds its attributes to the root. -/
def mergeRoot (b : Builder) (tag : Tag) : Builder :=
  if b.hasOpen "template" then b else b.addMissing b.root tag

/-- Before the head. -/
def beforeHead (b : Builder) (token : Token) : Outcome :=
  let openHead := fun tag =>
    let b := b.insertTag tag
    { b with head := some b.current, mode := .inHead }
  let missing := Outcome.again (openHead ⟨"head", [], false⟩)
  match token with
  | .blanks _ => .done b
  | .comment content => .done (b.addComment content)
  | .doctype _ => .done b
  | .startTag tag =>
      if tag.name = "html" then .done (b.mergeRoot tag)
      else if tag.name = "head" then .done (openHead tag)
      else missing
  | .endTag tag => if closesMissing tag then missing else .done b
  | _ => missing

/-- The start tags that the rules of the head deal with. -/
def headNames : List String :=
  ["base", "basefont", "bgsound", "link", "meta", "noframes", "script", "style", "template",
    "title"]

/-- Whether a token is dealt with by the rules of the head in other modes. -/
def belongsToHead : Token → Bool
  | .startTag tag => headNames.contains tag.name
  | .endTag tag => tag.name = "template"
  | _ => false

/-- Opens a template. -/
def openTemplate (b : Builder) (tag : Tag) : Builder :=
  { (b.insertTag tag).addMarker with
    framesAllowed := false
    mode := .inTemplate
    templateModes := .inTemplate :: b.templateModes }

/-- Closes a template, if one is open. -/
def closeTemplate (b : Builder) : Builder :=
  if b.hasOpen "template" then
    let b := ((b.popWhile (Name.isAmong thoroughlyImpliedNames)).popThrough
      ["template"]).clearToMarker
    { b with templateModes := b.templateModes.tail }.resetMode
  else b

/-- In the head. -/
def inHead (b : Builder) (token : Token) : Outcome :=
  let leave := Outcome.again { b.pop with mode := .afterHead }
  match token with
  | .blanks run => .done (b.addText run)
  | .comment content => .done (b.addComment content)
  | .doctype _ => .done b
  | .startTag tag =>
      if tag.name = "html" then .done (b.mergeRoot tag)
      else if ["base", "basefont", "bgsound", "link", "meta"].contains tag.name then
        .done (b.insertVoid tag)
      else if tag.name = "title" then .done (b.insertText tag (.escapable tag.name))
      else if ["noframes", "style", "noscript"].contains tag.name then
        .done (b.insertText tag (.verbatim tag.name))
      else if tag.name = "script" then .done (b.insertText tag .script)
      else if tag.name = "template" then .done (b.openTemplate tag)
      else if tag.name = "head" then .done b
      else leave
  | .endTag tag =>
      if tag.name = "head" then .done { b.pop with mode := .afterHead }
      else if tag.name = "template" then .done b.closeTemplate
      else if closesMissing tag then leave
      else .done b
  | _ => leave

/-- Between head and body. -/
def afterHead (b : Builder) (token : Token) : Outcome :=
  let missing := Outcome.again { b.insertMissing "body" with mode := .inBody }
  match token with
  | .blanks run => .done (b.addText run)
  | .comment content => .done (b.addComment content)
  | .doctype _ => .done b
  | .startTag tag =>
      if tag.name = "html" then .done (b.mergeRoot tag)
      else if tag.name = "body" then
        .done { b.insertTag tag with framesAllowed := false, mode := .inBody }
      else if tag.name = "frameset" then .done { b.insertTag tag with mode := .inFrames }
      else if headNames.contains tag.name then
        match b.head with
        | none => .done b
        | some head =>
            match (b.push head).inHead token with
            | .done b => .done (b.close head)
            | .again b => .again (b.close head)
      else if tag.name = "head" then .done b
      else missing
  | .endTag tag =>
      if tag.name = "template" then b.inHead token
      else if ["body", "html", "br"].contains tag.name then missing
      else .done b
  | _ => missing

/-- In an element whose contents are no markup. -/
def inText (b : Builder) (token : Token) : Outcome :=
  let leave := { b.pop with mode := b.returnMode, reading := .markup }
  match token with
  | .blanks run => .done (b.addText run)
  | .text run => .done (b.addText run)
  | .endTag _ => .done leave
  | .eof => .again leave
  | _ => .done b

end Builder

end Harvest.Html
