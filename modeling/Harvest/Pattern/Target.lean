import Harvest.Pattern.Error
import Harvest.Text.CaseMapping
import Harvest.Text.CodeRanges

/-!
# Attributes and Targets

A capture names where its value comes from, an *attribute*, and where it goes, one or more
*targets*. A target is written `Field.filter.filter`: a field, and the filters that the
value passes through first, left to right.
-/

namespace Harvest.Pattern

/-- Where a capture reads its value. -/
inductive Attribute where
  /-- The text below the element. -/
  | text
  /-- The markup of the element's children. -/
  | html
  /-- The value of the element's attribute of that name. -/
  | named (key : String)
  deriving DecidableEq, Repr

/-- The attribute that a key names. Keys are compared in lower case, and `text` and `html`
are reserved. -/
def Attribute.ofKey (key : String) : Attribute :=
  let key := Text.lower key
  if key = "text" then .text
  else if key = "html" then .html
  else .named key

/-- The key of an attribute. -/
def Attribute.key : Attribute → String
  | .text => "text"
  | .html => "html"
  | .named key => key

/-- A field and the filters its value passes through. -/
structure Target where
  /-- The field. -/
  field : String
  /-- The names of the filters, in the order of their application. -/
  filters : List String
  deriving DecidableEq, Repr

/-- The parts of a target's text between its dots. -/
def segments (text : String) : List String :=
  (Text.pieces '.' text.toList).map String.ofList

/-- Reads a target, of which no segment may be empty. -/
def Target.parse (text : String) : Except CompileFault Target :=
  match segments text with
  | [] => .error (.emptySegment text)
  | field :: filters =>
      if field.isEmpty || filters.any String.isEmpty then .error (.emptySegment text)
      else .ok ⟨field, filters⟩

end Harvest.Pattern
