import Harvest.Extraction.Search
import Harvest.Html.Document
import Harvest.Html.Markup
import Harvest.Pattern.Rule
import Harvest.Record.Basic

/-!
# Extraction

The rules of a pattern are searched for in a document, and the values they capture are
written to records. An element that a selector matches is *accepted* if all captures of the
rule resolve and all required child rules find something below it.

* `Pattern.find` writes everything to one record. Later values take the place of earlier
  ones, and what a rejected element has written stays.
* `Pattern.findAll` gives each accepted element of a top rule a record of its own.

Both stop at the first error, in the order in which things are done.
-/

namespace Harvest.Extraction

open Html Record

/-! ### Fields -/

mutual

/-- The targets of a rule and of the rules below it, in the order in which their fields are
checked: those of a rule before those below it, and of two siblings the later one first. -/
def checkedTargets : Pattern.Rule → List Pattern.Target
  | .mk heading children =>
      heading.captures.flatMap Pattern.Capture.targets ++ checkedTargetsOfList children

/-- The targets of a list of rules in the order in which their fields are checked. -/
def checkedTargetsOfList : List Pattern.Rule → List Pattern.Target
  | [] => []
  | r :: rs => checkedTargetsOfList rs ++ checkedTargets r

end

/-- Checks that a record type has every field that a target names. A type without names
takes every field. -/
def checkFields (τ : RecordType) (rules : List Pattern.Rule) : Except FindError Unit :=
  if τ.fieldNames.isEmpty then .ok ()
  else
    match (checkedTargetsOfList rules).find? fun t => !τ.fieldNames.contains t.field with
    | some t => .error (.assign t.field (.unknownField t.field))
    | none => .ok ()

/-! ### Captures -/

/-- Passes a value through filters, left to right. -/
def applyFilters (filters : Filter.Registry) : (names : List String) → String →
    Except FindError String
  | [], value => .ok value
  | name :: names, value =>
      match filters.resolve? name with
      | none => .error (.unknownFilter name)
      | some filter => applyFilters filters names (filter value)

/-- Stores a value in the field of a target, after its filters. -/
def bindValue (filters : Filter.Registry) (τ : RecordType) (target : Pattern.Target)
    (value : String) : Writing τ.Value Unit := fun record =>
  match applyFilters filters target.filters value with
  | .error e => (.error e, record)
  | .ok value =>
      match τ.assign record target.field value with
      | .error cause => (.error (.assign target.field cause), record)
      | .ok record => (.ok (), record)

/-- Stores values in the fields of targets, in order. -/
def bindAll (filters : Filter.Registry) (τ : RecordType) : List (Pattern.Target × String) →
    Writing τ.Value Unit
  | [] => pure ()
  | (target, value) :: rest => do
      bindValue filters τ target value
      bindAll filters τ rest

/-- The value that an attribute has on an element. -/
def attributeValue? (p : Place) : Pattern.Attribute → Option String
  | .text => some (Node.textContent p.children)
  | .html => some (Node.innerMarkup p.children)
  | .named key => p.attribute? key

/-- Pairs targets with the texts of groups. A group that took no part gives the empty
text. -/
def pairGroups : List Pattern.Target → List (Option String) → List (Pattern.Target × String)
  | [], _ => []
  | t :: ts, groups => (t, (groups.head?.join).getD "") :: pairGroups ts groups.tail

/-- The values that a capture has for its targets on an element; `none` if it does not
resolve: the attribute is missing, the expression does not match, or it has more groups than
there are targets. -/
def captured? (p : Place) (c : Pattern.Capture) : Option (List (Pattern.Target × String)) :=
  match attributeValue? p c.source with
  | none => none
  | some raw =>
      match c.expression with
      | none => some (c.targets.map fun target => (target, raw))
      | some e =>
          if c.targets.length < e.regex.groups then none
          else (e.regex.captures? raw).map (pairGroups c.targets)

/-- Takes the values of captures, in order, up to the first one that does not resolve. The
result tells whether all did. -/
def takeCaptures (filters : Filter.Registry) (τ : RecordType) (p : Place) :
    List Pattern.Capture → Writing τ.Value Bool
  | [] => pure true
  | c :: cs =>
      match captured? p c with
      | none => pure false
      | some values => do
          bindAll filters τ values
          takeCaptures filters τ p cs

/-! ### Rules -/

mutual

/-- Takes everything that a rule captures on an element and below it. The result tells
whether the element is accepted. -/
def populate (filters : Filter.Registry) (τ : RecordType) : Pattern.Rule → ElementTree →
    Writing τ.Value Bool
  | .mk heading children, tree => do
      let resolved ← takeCaptures filters τ tree.place heading.captures
      if resolved then populateAll filters τ children tree else pure false

/-- Searches for rules below an element, in order, up to the first one that is required and
finds nothing. -/
def populateAll (filters : Filter.Registry) (τ : RecordType) : List Pattern.Rule →
    ElementTree → Writing τ.Value Bool
  | [], _ => pure true
  | r :: rs, tree => do
      match ← search r.heading (populate filters τ r) tree.children with
      | .matched => populateAll filters τ rs tree
      | .noMatch => pure false

end

/-- Where the values that are captured go. -/
inductive Sink where
  /-- To one record that all elements share. -/
  | record
  /-- To a list that holds a record for each accepted element. -/
  | list
  deriving DecidableEq, Repr

/-- What a sink holds. -/
abbrev Sink.State (τ : RecordType) : Sink → Type
  | .record => τ.Value
  | .list => List τ.Value

/-- Takes what a rule captures on an element into a sink. A list gets a record of its own
for the element, once the element is accepted. -/
def accept (filters : Filter.Registry) (τ : RecordType) :
    (sink : Sink) → Pattern.Rule → ElementTree → Writing (sink.State τ) Bool
  | .record, r, tree => populate filters τ r tree
  | .list, r, tree => fun records =>
      match populate filters τ r tree τ.default with
      | (.error e, _) => (.error e, records)
      | (.ok false, _) => (.ok false, records)
      | (.ok true, record) => (.ok true, records ++ [record])

/-- Searches a document for top rules, in order. Each one that is required finds
something. -/
def runRules (filters : Filter.Registry) (τ : RecordType) (document : Document)
    (sink : Sink) : List Pattern.Rule → Writing (sink.State τ) Unit
  | [] => pure ()
  | r :: rs => do
      match ← search r.heading (accept filters τ sink r) [document.root] with
      | .matched => runRules filters τ document sink rs
      | .noMatch => throw (.noMatch r.heading.selectorText)

end Harvest.Extraction

namespace Harvest.Pattern

open Extraction Html Record

/-- Extracts into a single record. The record is given back also after an error, with what
was written before it. -/
def find (p : Pattern) (document : Document) (τ : RecordType) (record : τ.Value) :
    Except FindError Unit × τ.Value :=
  match checkFields τ p.rules with
  | .error e => (.error e, record)
  | .ok () => runRules p.filters τ document .record p.rules record

/-- Extracts one record for each accepted element of a top rule and adds them to a list.
After an error the list is as before. -/
def findAll (p : Pattern) (document : Document) (τ : RecordType) (records : List τ.Value) :
    Except FindError Unit × List τ.Value :=
  match checkFields τ p.rules with
  | .error e => (.error e, records)
  | .ok () =>
      match runRules p.filters τ document .list p.rules [] with
      | (.error e, _) => (.error e, records)
      | (.ok (), found) => (.ok (), records ++ found)

end Harvest.Pattern
