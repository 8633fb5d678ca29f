import Harvest.Html.BodyRules

/-!
# Rules of Tables and Selections

The rules for the parts of a table, which close and open each other, and for selections. A
table takes its own parts only: text and other elements are put before it.
-/

namespace Harvest.Html.Builder

/-- In a table. -/
def inTable (b : Builder) (token : Token) : Outcome :=
  let clear := b.popTo ["table", "template", "html"]
  match token with
  | .blanks _ | .text _ | .null =>
      if b.currentIs fosteringNames then
        .again { b with returnMode := b.mode, mode := .inTableText }
      else b.fosterInBody token
  | .comment content => .done (b.addComment content)
  | .doctype _ => .done b
  | .startTag tag =>
      let isOne := fun (names : List String) => names.contains tag.name
      if isOne ["caption"] then
        .done { clear.addMarker.insertTag tag with mode := .inCaption }
      else if isOne ["colgroup"] then .done { clear.insertTag tag with mode := .inColumns }
      else if isOne ["col"] then
        .again { clear.insertMissing "colgroup" with mode := .inColumns }
      else if isOne ["tbody", "tfoot", "thead"] then
        .done { clear.insertTag tag with mode := .inTableBody }
      else if isOne ["td", "th", "tr"] then
        .again { clear.insertMissing "tbody" with mode := .inTableBody }
      else if isOne ["table"] then
        if b.inScope boundsTable ["table"] then .again (b.popThrough ["table"]).resetMode
        else .done b
      else if isOne ["style", "script", "template"] then b.inHead token
      else if isOne ["input"] then
        if isHidden tag then .done (b.insertVoid tag) else b.fosterInBody token
      else if isOne ["form"] then
        if b.hasOpen "template" || b.form.isSome then .done b
        else
          let (b, i) := b.insert (.html tag.name) (plainAttributes tag.attributes)
          .done { b with form := some i }
      else b.fosterInBody token
  | .endTag tag =>
      let isOne := fun (names : List String) => names.contains tag.name
      if isOne ["table"] then
        .done (if b.inScope boundsTable ["table"] then (b.popThrough ["table"]).resetMode else b)
      else if isOne ["body", "caption", "col", "colgroup", "html", "tbody", "td", "tfoot", "th",
          "thead", "tr"] then .done b
      else if isOne ["template"] then b.inHead token
      else b.fosterInBody token
  | .eof => b.inBody token

/-- In text directly in a table. Blanks stay there, and text that holds anything else is
put before the table as a whole. -/
def inTableText (b : Builder) (token : Token) : Outcome :=
  match token with
  | .null | .doctype _ => .done b
  | .blanks _ | .text _ => .done { b with tableText := token :: b.tableText }
  | _ =>
      let runs := b.tableText.reverse
      let b := { b with tableText := [] }
      let isPlain := fun (run : Token) => match run with
        | .text _ => true
        | _ => false
      let b :=
        if runs.any isPlain then
          runs.foldl (fun b run => match b.fosterInBody run with
            | .done b => b
            | .again b => b) b
        else
          runs.foldl (fun b run => match run with
            | .blanks cs => b.addText cs
            | _ => b) b
      .again { b with mode := b.returnMode }

/-- In the caption of a table. -/
def inCaption (b : Builder) (token : Token) : Outcome :=
  let closed := { (b.closeImplied.popThrough ["caption"]).clearToMarker with mode := .inTable }
  let isOpen := b.inScope boundsTable ["caption"]
  match token with
  | .startTag tag =>
      if strayNames.contains tag.name && tag.name != "frame" && tag.name != "head" then
        if isOpen then .again closed else .done b
      else b.inBody token
  | .endTag tag =>
      if tag.name = "caption" then .done (if isOpen then closed else b)
      else if tag.name = "table" then if isOpen then .again closed else .done b
      else if ["body", "col", "colgroup", "html", "tbody", "td", "tfoot", "th", "thead",
          "tr"].contains tag.name then .done b
      else b.inBody token
  | _ => b.inBody token

/-- In a group of columns. -/
def inColumns (b : Builder) (token : Token) : Outcome :=
  let leave :=
    if b.currentIs ["colgroup"] then Outcome.again { b.pop with mode := .inTable }
    else .done b
  match token with
  | .blanks run => .done (b.addText run)
  | .comment content => .done (b.addComment content)
  | .doctype _ => .done b
  | .startTag tag =>
      if tag.name = "html" then .done (b.mergeRoot tag)
      else if tag.name = "col" then .done (b.insertVoid tag)
      else if tag.name = "template" then b.inHead token
      else leave
  | .endTag tag =>
      if tag.name = "colgroup" then
        .done (if b.currentIs ["colgroup"] then { b.pop with mode := .inTable } else b)
      else if tag.name = "col" then .done b
      else if tag.name = "template" then b.inHead token
      else leave
  | .eof => b.inBody token
  | _ => leave

/-- The elements that a section of a table lies in. -/
def sectionContext : List String :=
  ["tbody", "tfoot", "thead", "template", "html"]

/-- In a section of a table. -/
def inTableBody (b : Builder) (token : Token) : Outcome :=
  let clear := b.popTo sectionContext
  let leave :=
    if b.inScope boundsTable ["table", "tbody", "tfoot"] then
      Outcome.again { clear.pop with mode := .inTable }
    else .done b
  match token with
  | .startTag tag =>
      let isOne := fun (names : List String) => names.contains tag.name
      if isOne ["tr"] then .done { clear.insertTag tag with mode := .inRow }
      else if isOne ["th", "td"] then .again { clear.insertMissing "tr" with mode := .inRow }
      else if isOne ["caption", "col", "colgroup", "tbody", "tfoot", "thead"] then leave
      else b.inTable token
  | .endTag tag =>
      let isOne := fun (names : List String) => names.contains tag.name
      if isOne ["tbody", "tfoot", "thead"] then
        .done (if b.inScope boundsTable [tag.name] then { clear.pop with mode := .inTable } else b)
      else if isOne ["table"] then leave
      else if isOne ["body", "caption", "col", "colgroup", "html", "td", "th", "tr"] then .done b
      else b.inTable token
  | _ => b.inTable token

/-- The elements that a row of a table lies in. -/
def rowContext : List String :=
  ["tr", "template", "html"]

/-- In a row of a table. -/
def inRow (b : Builder) (token : Token) : Outcome :=
  let clear := b.popTo rowContext
  let closed := { clear.pop with mode := .inTableBody }
  let isOpen := b.inScope boundsTable ["tr"]
  let leave := if isOpen then Outcome.again closed else .done b
  match token with
  | .startTag tag =>
      let isOne := fun (names : List String) => names.contains tag.name
      if isOne ["th", "td"] then .done { (clear.insertTag tag).addMarker with mode := .inCell }
      else if isOne ["caption", "col", "colgroup", "tbody", "tfoot", "thead", "tr"] then leave
      else b.inTable token
  | .endTag tag =>
      let isOne := fun (names : List String) => names.contains tag.name
      if isOne ["tr"] then .done (if isOpen then closed else b)
      else if isOne ["table"] then leave
      else if isOne ["tbody", "tfoot", "thead"] then
        if b.inScope boundsTable [tag.name] then leave else .done b
      else if isOne ["body", "caption", "col", "colgroup", "html", "td", "th"] then .done b
      else b.inTable token
  | _ => b.inTable token

/-- In a cell of a table. -/
def inCell (b : Builder) (token : Token) : Outcome :=
  let leave :=
    Outcome.again { (b.closeImplied.popThrough ["td", "th"]).clearToMarker with mode := .inRow }
  match token with
  | .startTag tag =>
      if ["caption", "col", "colgroup", "tbody", "td", "tfoot", "th", "thead",
          "tr"].contains tag.name then
        if b.inScope boundsTable ["td", "th"] then leave else .done b
      else b.inBody token
  | .endTag tag =>
      let isOne := fun (names : List String) => names.contains tag.name
      if isOne ["td", "th"] then
        .done (if b.inScope boundsTable [tag.name] then
            { (b.closeImplied.popThrough [tag.name]).clearToMarker with mode := .inRow }
          else b)
      else if isOne ["body", "caption", "col", "colgroup", "html"] then .done b
      else if isOne ["table", "tbody", "tfoot", "thead", "tr"] then
        if b.inScope boundsTable [tag.name] then leave else .done b
      else b.inBody token
  | _ => b.inBody token

/-! ### Selections -/

/-- In a selection. -/
def inSelect (b : Builder) (token : Token) : Outcome :=
  let isOpen := b.inScope boundsSelect ["select"]
  let closed := (b.popThrough ["select"]).resetMode
  let popIf := fun (b : Builder) (name : String) => if b.currentIs [name] then b.pop else b
  match token with
  | .null | .doctype _ => .done b
  | .blanks run | .text run => .done (b.addText run)
  | .comment content => .done (b.addComment content)
  | .startTag tag =>
      let isOne := fun (names : List String) => names.contains tag.name
      if isOne ["html"] then .done (b.mergeRoot tag)
      else if isOne ["option"] then .done ((popIf b "option").insertTag tag)
      else if isOne ["optgroup"] then
        .done ((popIf (popIf b "option") "optgroup").insertTag tag)
      else if isOne ["select"] then .done (if isOpen then closed else b)
      else if isOne ["input", "keygen", "textarea"] then
        if isOpen then .again closed else .done b
      else if isOne ["script", "template"] then b.inHead token
      else .done b
  | .endTag tag =>
      let isOne := fun (names : List String) => names.contains tag.name
      if isOne ["optgroup"] then
        let b := if b.currentIs ["option"] && b.pop.currentIs ["optgroup"] then b.pop else b
        .done (popIf b "optgroup")
      else if isOne ["option"] then .done (popIf b "option")
      else if isOne ["select"] then .done (if isOpen then closed else b)
      else if isOne ["template"] then b.inHead token
      else .done b
  | .eof => b.inBody token

/-- In a selection in a table. -/
def inSelectInTable (b : Builder) (token : Token) : Outcome :=
  let parts := ["caption", "table", "tbody", "tfoot", "thead", "tr", "td", "th"]
  let leave := Outcome.again (b.popThrough ["select"]).resetMode
  match token with
  | .startTag tag => if parts.contains tag.name then leave else b.inSelect token
  | .endTag tag =>
      if parts.contains tag.name then
        if b.inScope boundsTable [tag.name] then leave else .done b
      else b.inSelect token
  | _ => b.inSelect token

end Harvest.Html.Builder
