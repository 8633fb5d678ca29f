import Harvest.Html.Node

/-!
# Writing Markup

Nodes are written as markup. Ampersands, no-break spaces and angle brackets are escaped in
texts; ampersands, no-break spaces and double quotes in the values of attributes. Texts
inside elements whose contents are no markup, such as scripts, are written as they are, and
elements that never have contents are written without an end tag.
-/

namespace Harvest.Html

/-- The escaped form of a character that is escaped everywhere. -/
def escapeShared? (c : Char) : Option String :=
  if c = '&' then some "&amp;"
  else if c = '\u00a0' then some "&nbsp;"
  else none

/-- The escaped form of a character of a text. -/
def escapeTextChar (c : Char) : String :=
  match escapeShared? c with
  | some s => s
  | none => if c = '<' then "&lt;" else if c = '>' then "&gt;" else c.toString

/-- The escaped form of a character of an attribute's value. -/
def escapeValueChar (c : Char) : String :=
  match escapeShared? c with
  | some s => s
  | none => if c = '"' then "&quot;" else c.toString

/-- Escapes a text. -/
def escapeText (s : String) : String :=
  String.join (s.toList.map escapeTextChar)

/-- Escapes the value of an attribute. -/
def escapeValue (s : String) : String :=
  String.join (s.toList.map escapeValueChar)

/-- The elements that never have contents. -/
def voidNames : List String :=
  ["area", "base", "basefont", "bgsound", "br", "col", "embed", "frame", "hr", "img", "input",
    "keygen", "link", "meta", "param", "source", "track", "wbr"]

/-- The elements whose texts are no markup. -/
def verbatimNames : List String :=
  ["style", "script", "xmp", "iframe", "noembed", "noframes", "plaintext"]

/-- Whether an element never has contents. -/
def Name.isVoid (n : Name) : Bool :=
  n.space = .html && voidNames.contains n.text

/-- Whether the texts directly in an element are written as they are. -/
def Name.isVerbatim (n : Name) : Bool :=
  n.space = .html && verbatimNames.contains n.text

/-- The name of an attribute as it is written. -/
def Attribute.writtenName (a : Attribute) : String :=
  match a.name.space with
  | .xml => "xml:" ++ a.name.text
  | .xlink => "xlink:" ++ a.name.text
  | .xmlns => if a.name.text = "xmlns" then "xmlns" else "xmlns:" ++ a.name.text
  | _ => a.name.text

/-- An attribute as it is written, with the blank before it. -/
def Attribute.markup (a : Attribute) : String :=
  " " ++ a.writtenName ++ "=\"" ++ escapeValue a.value ++ "\""

namespace Node

mutual

/-- The markup of a node; `verbatim` tells that texts are written as they are. -/
def markup (verbatim : Bool) : Node → String
  | .element name attributes children =>
      "<" ++ name.text ++ String.join (attributes.map Attribute.markup) ++ ">" ++
        (if name.isVoid then ""
          else markupOfList name.isVerbatim children ++ "</" ++ name.text ++ ">")
  | .text content => if verbatim then content else escapeText content
  | .comment content => "<!--" ++ content ++ "-->"
  | .doctype name => "<!DOCTYPE " ++ name ++ ">"
  | .fragment children => markupOfList verbatim children

/-- The markup of a list of nodes, one after the other. -/
def markupOfList (verbatim : Bool) : List Node → String
  | [] => ""
  | n :: ns => n.markup verbatim ++ markupOfList verbatim ns

end

/-- The markup of an element's children. Texts directly below the element are escaped
whatever the element is. -/
def innerMarkup (children : List Node) : String :=
  markupOfList false children

end Node

end Harvest.Html
