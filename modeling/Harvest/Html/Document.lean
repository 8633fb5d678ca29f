import Harvest.Html.Element
import Harvest.Html.Source
import Harvest.Text.Utf8

/-!
# Documents

A document is the tree of the elements below its root element.

* `Document.parse` reads a complete document and never fails: missing elements are added.
* `Document.parseFragment` reads a part of a document, as if it stood in a body.
* `Document.ofBytes` reads a complete document from bytes.
-/

namespace Harvest.Html

/-- A parsed document. -/
structure Document where
  /-- The root element. -/
  root : ElementTree

namespace Document

/-- The document with the given nodes. Reading always gives a root element; without one the
document is empty. -/
def ofNodes (isComplete : Bool) (nodes : List Node) : Document :=
  match ElementTree.ofNodes none [] isComplete nodes with
  | root :: _ => ⟨root⟩
  | [] => ⟨.node ⟨.html "html", [], [], [], [], none, isComplete⟩ []⟩

/-- Reads a complete document. -/
def parse (source : String) : Document :=
  ofNodes true (Builder.start.read source)

/-- Reads a part of a document. -/
def parseFragment (source : String) : Document :=
  ofNodes false (Builder.startFragment.read source)

/-- Reads a complete document from bytes; what is not UTF-8 is replaced. -/
def ofBytes (bytes : List UInt8) : Document :=
  parse (String.ofList (Text.Utf8.decodeLossy bytes))

end Document

end Harvest.Html
