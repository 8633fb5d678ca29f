import Harvest.Html.Adoption
import Harvest.Html.ForeignNames
import Harvest.Html.HeadRules

/-!
# Rules of the Body

The rules for the contents of a body. They say which elements close a paragraph or a list
item that is still open, which elements repeat formatting, and which have no contents.
-/

namespace Harvest.Html.Builder

/-- The start tags that close a paragraph and open a block. -/
def blockNames : List String :=
  ["address", "article", "aside", "blockquote", "center", "details", "dialog", "dir", "div", "dl",
    "fieldset", "figcaption", "figure", "footer", "header", "hgroup", "main", "menu", "nav", "ol",
    "p", "section", "summary", "ul"]

/-- The end tags that close a block. -/
def blockEndNames : List String :=
  ["address", "article", "aside", "blockquote", "button", "center", "details", "dialog", "dir",
    "div", "dl", "fieldset", "figcaption", "figure", "footer", "header", "hgroup", "listing",
    "main", "menu", "nav", "ol", "pre", "section", "summary", "ul"]

/-- The formatting elements, links and unbroken text apart. -/
def formattingNames : List String :=
  ["b", "big", "code", "em", "font", "i", "s", "small", "strike", "strong", "tt", "u"]

/-- The elements that shield their contents from formatting. -/
def shieldNames : List String :=
  ["applet", "marquee", "object"]

/-- The start tags that have no meaning in a body. -/
def strayNames : List String :=
  ["caption", "col", "colgroup", "frame", "head", "tbody", "td", "tfoot", "th", "thead", "tr"]

/-- Whether an input is hidden. -/
def isHidden (tag : Tag) : Bool :=
  match tag.attributes.lookup "type" with
  | some value => afterWord? "hidden".toList value.toList = some []
  | none => false

/-- The name of the list item or term that a new one closes: the innermost open one of
`names`, unless a special element other than an address, division or paragraph is open
in it. -/
def itemToClose (b : Builder) (names : List String) : List Nat → Option String
  | [] => none
  | i :: rest =>
      let name := b.nameOf i
      if name.isAmong names then some name.text
      else if name.isAmong specialNames && !name.isAmong ["address", "div", "p"] then none
      else b.itemToClose names rest

/-- The start tag of a list item or term. -/
def openItem (b : Builder) (tag : Tag) : Builder :=
  let names := if tag.name = "li" then ["li"] else ["dd", "dt"]
  let b := { b with framesAllowed := false }
  let b := match b.itemToClose names b.openElements with
    | some name => (b.closeImpliedExcept name).popThrough [name]
    | none => b
  b.closeParagraphInScope.insertTag tag

/-- The start tag of a form; a form is not opened inside another one. -/
def openForm (b : Builder) (tag : Tag) : Builder :=
  let inTemplate := b.hasOpen "template"
  if b.form.isSome && !inTemplate then b
  else
    let b := b.closeParagraphInScope.insertTag tag
    if inTemplate then b else { b with form := some b.current }

/-- The end tag of a form. -/
def closeForm (b : Builder) : Builder :=
  if b.hasOpen "template" then
    if b.inScope bounds ["form"] then b.closeImplied.popThrough ["form"] else b
  else
    match b.form with
    | none => b
    | some form =>
        let b := { b with form := none }
        if b.scopeHas bounds (· = form) b.openElements then b.closeImplied.close form else b

/-- The start tag of a link; a link is not opened inside another one. -/
def openLink (b : Builder) (tag : Tag) : Builder :=
  let b := match b.recentFormatting.find? fun f => (b.nameOf f.1).isAmong ["a"] with
    | none => b
    | some (i, _) => ((b.closeFormatting "a").dropFormatting i).close i
  b.reopenFormatting.insertFormatting tag

/-- Opens an element of another vocabulary; one that closes itself is not opened. -/
def insertForeign (b : Builder) (space : Namespace) (name : String) (tag : Tag) : Builder :=
  let (b, i) := b.insert ⟨space, name⟩ (foreignAttributes space tag.attributes)
  if tag.selfClosing then b else b.push i

/-- A start tag in the body. -/
def startInBody (b : Builder) (tag : Tag) : Builder :=
  let isOne := fun (names : List String) => names.contains tag.name
  let noFrames := fun (b : Builder) => { b with framesAllowed := false }
  if isOne ["html"] then b.mergeRoot tag
  else if isOne ["body"] then
    match b.body? with
    | some body => if b.hasOpen "template" then b else (noFrames b).addMissing body tag
    | none => b
  else if isOne ["frameset"] then
    match b.framesAllowed, b.body? with
    | true, some body =>
        { { b with
            draft := b.draft.detach body
            openElements := [b.root] }.insertTag tag with mode := .inFrames }
    | _, _ => b
  else if isOne blockNames then b.closeParagraphInScope.insertTag tag
  else if isOne headingNames then
    let b := b.closeParagraphInScope
    (if b.currentIs headingNames then b.pop else b).insertTag tag
  else if isOne ["pre", "listing"] then
    { noFrames (b.closeParagraphInScope.insertTag tag) with skipsNewline := true }
  else if isOne ["form"] then b.openForm tag
  else if isOne ["li", "dd", "dt"] then b.openItem tag
  else if isOne ["plaintext"] then
    { b.closeParagraphInScope.insertTag tag with reading := .plain }
  else if isOne ["button"] then
    let b := if b.inScope bounds ["button"] then b.closeImplied.popThrough ["button"] else b
    noFrames (b.reopenFormatting.insertTag tag)
  else if isOne ["a"] then b.openLink tag
  else if isOne formattingNames then b.reopenFormatting.insertFormatting tag
  else if isOne ["nobr"] then
    let b := b.reopenFormatting
    let b := if b.inScope bounds ["nobr"] then (b.closeFormatting "nobr").reopenFormatting else b
    b.insertFormatting tag
  else if isOne shieldNames then noFrames (b.reopenFormatting.insertTag tag).addMarker
  else if isOne ["table"] then
    let b := if b.lenient then b else b.closeParagraphInScope
    { noFrames (b.insertTag tag) with mode := .inTable }
  else if isOne ["area", "br", "embed", "img", "keygen", "wbr"] then
    noFrames (b.reopenFormatting.insertVoid tag)
  else if isOne ["image"] then
    noFrames (b.reopenFormatting.insertVoid { tag with name := "img" })
  else if isOne ["input"] then
    let b := b.reopenFormatting.insertVoid tag
    if isHidden tag then b else noFrames b
  else if isOne ["param", "source", "track"] then b.insertVoid tag
  else if isOne ["hr"] then noFrames (b.closeParagraphInScope.insertVoid tag)
  else if isOne ["textarea"] then
    { noFrames (b.insertText tag (.escapable tag.name)) with skipsNewline := true }
  else if isOne ["xmp"] then
    noFrames (b.closeParagraphInScope.reopenFormatting.insertText tag (.verbatim tag.name))
  else if isOne ["iframe"] then noFrames (b.insertText tag (.verbatim tag.name))
  else if isOne ["noembed", "noscript"] then b.insertText tag (.verbatim tag.name)
  else if isOne ["select"] then
    let inTable := match b.mode with
      | .inTable | .inCaption | .inTableBody | .inRow | .inCell => true
      | _ => false
    { noFrames (b.reopenFormatting.insertTag tag) with
      mode := if inTable then .inSelectInTable else .inSelect }
  else if isOne ["optgroup", "option"] then
    (if b.currentIs ["option"] then b.pop else b).reopenFormatting.insertTag tag
  else if isOne ["rb", "rtc"] then
    (if b.inScope bounds ["ruby"] then b.closeImplied else b).insertTag tag
  else if isOne ["rp", "rt"] then
    (if b.inScope bounds ["ruby"] then b.closeImpliedExcept "rtc" else b).insertTag tag
  else if isOne ["math"] then b.reopenFormatting.insertForeign .mathml tag.name tag
  else if isOne ["svg"] then b.reopenFormatting.insertForeign .svg tag.name tag
  else if isOne strayNames then b
  else b.reopenFormatting.insertTag tag

/-- An end tag in the body, those of body and root apart. -/
def endInBody (b : Builder) (tag : Tag) : Builder :=
  let isOne := fun (names : List String) => names.contains tag.name
  if isOne blockEndNames then
    if b.inScope bounds [tag.name] then b.closeImplied.popThrough [tag.name] else b
  else if isOne ["form"] then b.closeForm
  else if isOne ["p"] then
    (if b.inScope boundsButton ["p"] then b else b.insertMissing "p").closeParagraph
  else if isOne ["li", "dd", "dt"] then
    let isBound := if tag.name = "li" then boundsItem else bounds
    if b.inScope isBound [tag.name] then
      (b.closeImpliedExcept tag.name).popThrough [tag.name]
    else b
  else if isOne headingNames then
    if b.inScope bounds headingNames then b.closeImplied.popThrough headingNames else b
  else if isOne (["a", "nobr"] ++ formattingNames) then b.closeFormatting tag.name
  else if isOne shieldNames then
    if b.inScope bounds [tag.name] then
      (b.closeImplied.popThrough [tag.name]).clearToMarker
    else b
  else if isOne ["br"] then b.startInBody { tag with attributes := [] }
  else b.closeAny tag.name

/-- The end of the document in a template closes the template. -/
def endTemplates (b : Builder) : Outcome :=
  if b.hasOpen "template" then
    let b := (b.popThrough ["template"]).clearToMarker
    .again { b with templateModes := b.templateModes.tail }.resetMode
  else .done b

/-- In the body. -/
def inBody (b : Builder) (token : Token) : Outcome :=
  match token with
  | .null => .done b
  | .blanks run => .done (b.reopenFormatting.addText run)
  | .text run => .done { b.reopenFormatting.addText run with framesAllowed := false }
  | .comment content => .done (b.addComment content)
  | .doctype _ => .done b
  | .startTag tag => if belongsToHead token then b.inHead token else .done (b.startInBody tag)
  | .endTag tag =>
      if belongsToHead token then b.inHead token
      else if tag.name = "body" then
        .done (if b.inScope bounds ["body"] then { b with mode := .afterBody } else b)
      else if tag.name = "html" then
        if b.inScope bounds ["body"] then .again { b with mode := .afterBody } else .done b
      else .done (b.endInBody tag)
  | .eof => if b.templateModes.isEmpty then .done b else b.endTemplates

/-- In the body, with nodes that do not belong into a table put before it. -/
def fosterInBody (b : Builder) (token : Token) : Outcome :=
  match { b with fosters := true }.inBody token with
  | .done b => .done { b with fosters := false }
  | .again b => .again { b with fosters := false }

/-- In a template. -/
def inTemplate (b : Builder) (token : Token) : Outcome :=
  let treatAs := fun (mode : Mode) =>
    Outcome.again { b with templateModes := mode :: b.templateModes.tail, mode }
  match token with
  | .blanks _ | .text _ | .comment _ => b.inBody token
  | .null | .doctype _ => .done b
  | .startTag tag =>
      let isOne := fun (names : List String) => names.contains tag.name
      if belongsToHead token then b.inHead token
      else if isOne ["caption", "colgroup", "tbody", "tfoot", "thead"] then treatAs .inTable
      else if isOne ["col"] then treatAs .inColumns
      else if isOne ["tr"] then treatAs .inTableBody
      else if isOne ["td", "th"] then treatAs .inRow
      else treatAs .inBody
  | .endTag _ => if belongsToHead token then b.inHead token else .done b
  | .eof => b.endTemplates

/-- After the body. -/
def afterBody (b : Builder) (token : Token) : Outcome :=
  let back := Outcome.again { b with mode := .inBody }
  match token with
  | .blanks _ => b.inBody token
  | .comment content => .done (b.addCommentTo b.root content)
  | .doctype _ | .eof => .done b
  | .startTag tag => if tag.name = "html" then .done (b.mergeRoot tag) else back
  | .endTag tag =>
      if tag.name = "html" then
        .done (if b.isFragment then b else { b with mode := .afterRoot })
      else back
  | _ => back

/-- After the root element. -/
def afterRoot (b : Builder) (token : Token) : Outcome :=
  let back := Outcome.again { b with mode := .inBody }
  match token with
  | .blanks _ => b.inBody token
  | .comment content => .done (b.addCommentTo Draft.document content)
  | .doctype _ | .eof => .done b
  | .startTag tag => if tag.name = "html" then .done (b.mergeRoot tag) else back
  | _ => back

/-! ### Sets of frames -/

/-- In a set of frames. -/
def inFrames (b : Builder) (token : Token) : Outcome :=
  match token with
  | .blanks run => .done (b.addText run)
  | .comment content => .done (b.addComment content)
  | .startTag tag =>
      if tag.name = "html" then .done (b.mergeRoot tag)
      else if tag.name = "frameset" then .done (b.insertTag tag)
      else if tag.name = "frame" then .done (b.insertVoid tag)
      else if tag.name = "noframes" then b.inHead token
      else .done b
  | .endTag tag =>
      if tag.name = "frameset" && b.openElements.length ≠ 1 then
        let b := b.pop
        .done (if b.isFragment || b.currentIs ["frameset"] then b
          else { b with mode := .afterFrames })
      else .done b
  | _ => .done b

/-- After the sets of frames. -/
def afterFrames (b : Builder) (token : Token) : Outcome :=
  match token with
  | .blanks run => .done (b.addText run)
  | .comment content => .done (b.addComment content)
  | .startTag tag =>
      if tag.name = "html" then .done (b.mergeRoot tag)
      else if tag.name = "noframes" then b.inHead token
      else .done b
  | .endTag tag => .done (if tag.name = "html" then { b with mode := .afterFramesRoot } else b)
  | _ => .done b

/-- After the root element of a document of frames. -/
def afterFramesRoot (b : Builder) (token : Token) : Outcome :=
  match token with
  | .blanks _ => b.inBody token
  | .comment content => .done (b.addCommentTo Draft.document content)
  | .startTag tag =>
      if tag.name = "html" then .done (b.mergeRoot tag)
      else if tag.name = "noframes" then b.inHead token
      else .done b
  | _ => .done b

end Harvest.Html.Builder
