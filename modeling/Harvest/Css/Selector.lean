import Harvest.Css.Token
import Harvest.Html.Element
import Harvest.Text.Letter

/-!
# Selectors

A selector is a list of alternatives. An alternative describes an element, its *subject*,
by tests that all have to hold, and may describe elements around it: each step leads from an
element to one before or above it. The relative alternatives of `:has` lead the other way,
from the element to ones after or below it.

`Selector.matches` says whether an element, in its surroundings, is described. It follows
the structure of the selector.
-/

namespace Harvest.Css

open Html

/-- How two elements of a selector lie to each other. -/
inductive Combinator where
  /-- The second lies in the first, at any depth. -/
  | descendant
  /-- The second is a child of the first. -/
  | child
  /-- The second comes right after the first. -/
  | next
  /-- The second comes after the first. -/
  | later
  deriving DecidableEq, Repr

/-- When the letters of a value are compared without regard to case. -/
inductive CaseRule where
  /-- Always. -/
  | ignored
  /-- Never. -/
  | respected
  /-- In hypertext, for the attributes whose values are keywords. -/
  | byName
  deriving DecidableEq, Repr

/-- A test of an attribute. -/
structure AttributeTest where
  /-- Whether attributes of every vocabulary count, and not only those of none. -/
  anySpace : Bool
  /-- The name. -/
  name : String
  /-- The comparison with a value, if there is one. -/
  comparison : Option (Comparison × String × CaseRule)
  deriving DecidableEq, Repr

/-- A position among siblings, counted from one: the numbers `step * n + offset` for every
natural `n`. -/
structure PositionTest where
  /-- The distance between positions. -/
  step : Int
  /-- The first position. -/
  offset : Int
  /-- Whether positions are counted from the last sibling. -/
  fromEnd : Bool
  /-- Whether only siblings of the element's name are counted. -/
  ofType : Bool
  deriving DecidableEq, Repr

mutual

/-- A test of an element. -/
inductive Test where
  /-- Any element. -/
  | any
  /-- No element. -/
  | never
  /-- An element of that name. -/
  | name (name : String)
  /-- An element with that identifier. -/
  | id (id : String)
  /-- An element of that class. -/
  | ofClass (name : String)
  /-- A test of an attribute. -/
  | attribute (test : AttributeTest)
  /-- A test of the position among siblings. -/
  | position (test : PositionTest)
  /-- The root of a document. -/
  | root
  /-- An element that holds neither elements nor text. -/
  | empty
  /-- An element that one of the alternatives describes. -/
  | some (alternatives : List Alternative)
  /-- An element that none of the alternatives describes. -/
  | none (alternatives : List Alternative)
  /-- An element from which a path leads to other elements. -/
  | leadsTo (paths : List Path)

/-- A step to another element. -/
inductive Step where
  /-- The relation to the other element, and its tests. -/
  | mk (combinator : Combinator) (tests : List Test)

/-- Steps forward from an element, the first one first. -/
inductive Path where
  /-- The steps. -/
  | mk (steps : List Step)

/-- An alternative of a selector: the tests of the subject, and the steps backward to the
elements around it, the nearest first. -/
inductive Alternative where
  /-- The tests and the steps. -/
  | mk (tests : List Test) (steps : List Step)

end

/-- A selector: an element matches it if one of the alternatives describes the element. -/
structure Selector where
  /-- The alternatives. -/
  alternatives : List Alternative

/-! ### Names and attributes -/

/-- Whether an element belongs to hypertext, where names are compared in lower case. -/
def isHypertext (p : Place) : Bool :=
  p.name.space = .html

/-- The form in which a name is compared in an element. -/
def comparedName (p : Place) (name : String) : String :=
  if isHypertext p then name.toLower else name

/-- The attributes of hypertext whose values are keywords. -/
def keywordAttributes : List String :=
  ["accept", "accept-charset", "align", "alink", "axis", "bgcolor", "charset", "checked", "clear",
    "codetype", "color", "compact", "declare", "defer", "dir", "direction", "disabled", "enctype",
    "face", "frame", "hreflang", "http-equiv", "lang", "language", "link", "media", "method",
    "multiple", "nohref", "noresize", "noshade", "nowrap", "readonly", "rel", "rev", "rules",
    "scope", "scrolling", "selected", "shape", "target", "text", "type", "valign", "valuetype",
    "vlink"]

/-- Whether letters are compared without regard to case. -/
def AttributeTest.ignoresCase (t : AttributeTest) (p : Place) : CaseRule → Bool
  | .ignored => true
  | .respected => false
  | .byName => !t.anySpace && isHypertext p && keywordAttributes.contains t.name.toLower

/-- The words of a value between blanks. -/
def valueWords (value : List Char) : List (List Char) :=
  value.splitOnP isBlank

/-- Whether `part` stands somewhere in a text. -/
def containsPart (part : List Char) : List Char → Bool
  | [] => part.isEmpty
  | c :: cs => part.isPrefixOf (c :: cs) || containsPart part cs

/-- Compares a value with the one that a selector gives. -/
def Comparison.holds (comparison : Comparison) (given value : List Char) : Bool :=
  match comparison with
  | .equal => value = given
  | .includes => (valueWords value).contains given
  | .dash => value = given || (given ++ ['-']).isPrefixOf value
  | .starts => given.isPrefixOf value
  | .ends => given.isSuffixOf value
  | .contains => containsPart given value

/-- Whether an element has an attribute as described. -/
def AttributeTest.holds (t : AttributeTest) (p : Place) : Bool :=
  let name := comparedName p t.name
  p.attributes.any fun a =>
    (t.anySpace || a.name.space = .none) && a.name.text = name &&
      match t.comparison with
      | none => true
      | some (comparison, given, rule) =>
          if t.ignoresCase p rule then
            comparison.holds (given.toLower).toList (a.value.toLower).toList
          else comparison.holds given.toList a.value.toList

/-- The words of a text between blanks of any script. -/
def spacedWords (text : String) : List String :=
  ((text.toList.splitOnP Text.isBlank).filter fun w => !w.isEmpty).map String.ofList

/-- Whether an element is of a class. -/
def hasClass (p : Place) (name : String) : Bool :=
  p.attributes.any fun a => a.name.text = "class" && (spacedWords a.value).contains name

/-- Whether an element has an identifier. -/
def hasId (p : Place) (id : String) : Bool :=
  match p.attributes.find? fun a => a.name.text = "id" with
  | some a => a.value = id
  | none => false

/-! ### Positions -/

/-- Whether a natural number `n` gives `step * n + offset = index`. Differences that 32 bits
do not hold are given by none. -/
def PositionTest.includes (t : PositionTest) (index : Nat) : Bool :=
  let distance := (index : Int) - t.offset
  if distance < -(Nat.pow 2 31 : Int) ∨ (Nat.pow 2 31 : Int) ≤ distance then false
  else if t.step = 0 then distance = 0
  else
    let n := distance.tdiv t.step
    0 ≤ n && t.step * n = distance

/-- Whether the position of an element is as described. -/
def PositionTest.holds (t : PositionTest) (p : Place) : Bool :=
  let siblings := if t.fromEnd then p.following else p.preceding
  let counted := if t.ofType then siblings.filter fun q => q.name = p.name else siblings
  t.includes (counted.length + 1)

/-- Whether an element holds neither elements nor text. -/
def isEmpty (p : Place) : Bool :=
  !p.children.any fun n => n.isElement || n.isText

/-! ### Matching -/

/-- The elements that stand in a relation before or above an element. -/
def Combinator.back (c : Combinator) (p : Place) : List Place :=
  match c with
  | .descendant => p.ancestors
  | .child => p.parent.toList
  | .next => p.preceding.take 1
  | .later => p.preceding

/-- The elements that stand in a relation after or below an element. -/
def Combinator.forth (c : Combinator) (p : Place) : List Place :=
  match c with
  | .descendant => p.descendants
  | .child => p.childElements
  | .next => p.following.take 1
  | .later => p.following

mutual

/-- Whether a test holds of an element. -/
def Test.holds : Test → Place → Bool
  | .any, _ => true
  | .never, _ => false
  | .name name, p => p.name.text = comparedName p name
  | .id id, p => hasId p id
  | .ofClass name, p => hasClass p name
  | .attribute test, p => test.holds p
  | .position test, p => test.holds p
  | .root, p => p.isRoot
  | .empty, p => isEmpty p
  | .some alternatives, p => anyDescribes alternatives p
  | .none alternatives, p => !anyDescribes alternatives p
  | .leadsTo paths, p => anyLeads paths p

/-- Whether all tests hold of an element. -/
def allHold : List Test → Place → Bool
  | [], _ => true
  | t :: ts, p => t.holds p && allHold ts p

/-- Whether an element has the other element of a step, and that one satisfies `more`. -/
def Step.reaches (elements : Combinator → Place → List Place) (more : Place → Bool) :
    Step → Place → Bool
  | .mk combinator tests, p => (elements combinator p).any fun q => allHold tests q && more q

/-- Whether steps backward lead through elements as described. -/
def stepsBack : List Step → Place → Bool
  | [], _ => true
  | s :: ss, p => s.reaches Combinator.back (stepsBack ss) p

/-- Whether steps forward lead through elements as described. -/
def stepsForth : List Step → Place → Bool
  | [], _ => true
  | s :: ss, p => s.reaches Combinator.forth (stepsForth ss) p

/-- Whether an alternative describes an element. -/
def Alternative.describes : Alternative → Place → Bool
  | .mk tests steps, p => allHold tests p && stepsBack steps p

/-- Whether one of the alternatives describes an element. -/
def anyDescribes : List Alternative → Place → Bool
  | [], _ => false
  | a :: as, p => a.describes p || anyDescribes as p

/-- Whether a path leads through elements as described. -/
def Path.leads : Path → Place → Bool
  | .mk steps, p => stepsForth steps p

/-- Whether one of the paths leads through elements as described. -/
def anyLeads : List Path → Place → Bool
  | [], _ => false
  | r :: rs, p => r.leads p || anyLeads rs p

end

/-- Whether an element matches a selector. -/
def Selector.matches (s : Selector) (p : Place) : Bool :=
  anyDescribes s.alternatives p

end Harvest.Css
