import Harvest.Html.TableRules

/-!
# Rules of Other Vocabularies

The rules of the insertion modes hold for hypertext. Inside a formula or a graphic, start
tags make elements of the same vocabulary, up to tags that only hypertext has: those close
the formula or graphic first.
-/

namespace Harvest.Html.Builder

/-- Treats a token by the rules of the insertion mode. -/
def byMode (b : Builder) (token : Token) : Outcome :=
  match b.mode with
  | .initial => b.initial token
  | .beforeRoot => b.beforeRoot token
  | .beforeHead => b.beforeHead token
  | .inHead => b.inHead token
  | .afterHead => b.afterHead token
  | .inBody => b.inBody token
  | .inText => b.inText token
  | .inTable => b.inTable token
  | .inTableText => b.inTableText token
  | .inCaption => b.inCaption token
  | .inColumns => b.inColumns token
  | .inTableBody => b.inTableBody token
  | .inRow => b.inRow token
  | .inCell => b.inCell token
  | .inSelect => b.inSelect token
  | .inSelectInTable => b.inSelectInTable token
  | .inTemplate => b.inTemplate token
  | .afterBody => b.afterBody token
  | .inFrames => b.inFrames token
  | .afterFrames => b.afterFrames token
  | .afterRoot => b.afterRoot token
  | .afterFramesRoot => b.afterFramesRoot token

/-- Whether the innermost open element belongs to another vocabulary. -/
def inForeignElement (b : Builder) : Bool :=
  match b.openElements with
  | [] => false
  | i :: _ => (b.nameOf i).space ≠ .html

/-- Whether a token is treated by the rules of other vocabularies. -/
def isForeign (b : Builder) (token : Token) : Bool :=
  let name := b.nameOf b.current
  b.inForeignElement &&
    match token with
    | .eof | .doctype _ => false
    | .startTag tag =>
        !(isFormulaText name && tag.name != "mglyph" && tag.name != "malignmark") &&
          !isGraphicsText name && !(name = ⟨.mathml, "annotation-xml"⟩ && tag.name = "svg")
    | .blanks _ | .text _ | .null => !isFormulaText name && !isGraphicsText name
    | _ => true

/-- The start tags that only hypertext has. -/
def hypertextOnlyNames : List String :=
  ["b", "big", "blockquote", "body", "br", "center", "code", "dd", "div", "dl", "dt", "em",
    "embed", "h1", "h2", "h3", "h4", "h5", "h6", "head", "hr", "i", "img", "li", "listing",
    "menu", "meta", "nobr", "ol", "p", "pre", "ruby", "s", "small", "span", "strong", "strike",
    "sub", "sup", "table", "tt", "u", "ul", "var"]

/-- Opens an element of the vocabulary of the innermost open element. -/
def openForeign (b : Builder) (tag : Tag) : Builder :=
  let space := (b.nameOf b.current).space
  let name := if space = .svg then restoreCase graphicsElements tag.name else tag.name
  b.insertForeign space name tag

/-- A tag that only hypertext has: it closes the elements of the other vocabulary, except in
a fragment, where it makes one more of them. -/
def breakOut (b : Builder) (tag : Tag) : Outcome :=
  if b.isFragment then .done (b.openForeign tag)
  else
    .again (b.pop.popWhile fun n => n.space ≠ .html && !isFormulaText n && !isGraphicsText n)

/-- An end tag: it closes the innermost open element of its name, and below the first
element of hypertext the rules of the insertion mode hold. -/
def closeForeign (b : Builder) (tag : Tag) (innermost : Bool) : List Nat → Outcome
  | [] => .done b
  | [_] => .done b
  | i :: rest =>
      let name := b.nameOf i
      if !innermost && name.space = .html then b.byMode (.endTag tag)
      else if name.text.toLower = tag.name then .done { b with openElements := rest }
      else b.closeForeign tag false rest

/-- Treats a token by the rules of other vocabularies. -/
def inForeign (b : Builder) (token : Token) : Outcome :=
  match token with
  | .null => .done (b.addText [replacementChar])
  | .blanks run => .done (b.addText run)
  | .text run => .done { b.addText run with framesAllowed := false }
  | .comment content => .done (b.addComment content)
  | .doctype _ | .eof => .done b
  | .startTag tag =>
      let fontOnly := tag.name = "font" &&
        tag.attributes.any fun a => ["color", "face", "size"].contains a.1
      if hypertextOnlyNames.contains tag.name || fontOnly then b.breakOut tag
      else .done (b.openForeign tag)
  | .endTag tag =>
      if ["br", "p"].contains tag.name then b.breakOut tag
      else b.closeForeign tag true b.openElements

/-- Treats a token once. -/
def step (b : Builder) (token : Token) : Outcome :=
  if b.isForeign token then b.inForeign token else b.byMode token

/-- Treats a token until it is done. Whenever it is to be treated again, a mode has been left
or an element closed, so `fuel` is bounded by the stack. -/
def treat : (fuel : Nat) → Token → Builder → Builder
  | 0, _, b => b
  | fuel + 1, token, b =>
      match b.step token with
      | .done b => b
      | .again b => treat fuel token b

/-- Feeds a token to the rules. A newline right after certain start tags is dropped. -/
def feed (b : Builder) (token : Token) : Builder :=
  let skips := b.skipsNewline
  let b := { b with skipsNewline := false }
  let fuel := 64 + 8 * (b.openElements.length + b.templateModes.length)
  match skips, token with
  | true, .blanks ['\n'] => b
  | true, .blanks ('\n' :: run) => treat fuel (.blanks run) b
  | _, _ => treat fuel token b

end Harvest.Html.Builder
