import Harvest.Css.Reader
import Harvest.Filter.Registry
import Harvest.Pattern.Target
import Harvest.Regex.Basic

/-!
# Rules and Patterns

A pattern is a forest of rules together with the filters that belong to it. A rule finds
elements by a selector, captures values from each, and looks for its child rules below it.
-/

namespace Harvest

/-- A regular expression together with the text it was compiled from. -/
structure Pattern.Expression where
  /-- The text. -/
  source : String
  /-- The compiled expression. -/
  regex : Regex

/-- What is taken from an element, and where it goes. -/
structure Pattern.Capture where
  /-- Where the value is read. -/
  source : Pattern.Attribute
  /-- The expression whose groups take the value apart. -/
  expression : Option Pattern.Expression
  /-- Where the value goes, or its groups, one target each. -/
  targets : List Pattern.Target

/-- A rule without its child rules. -/
structure Pattern.Heading where
  /-- The selector as written. -/
  selectorText : String
  /-- The selector. -/
  selector : Css.Selector
  /-- Whether the rule may match nothing. -/
  optional : Bool
  /-- The captures, in order. -/
  captures : List Pattern.Capture

/-- A rule. -/
inductive Pattern.Rule where
  /-- A heading and the child rules, in order. -/
  | mk (heading : Pattern.Heading) (children : List Pattern.Rule)

/-- A pattern. -/
structure Pattern where
  /-- The rules at the top. -/
  rules : List Pattern.Rule
  /-- The filters that belong to the pattern. -/
  filters : Filter.Registry

namespace Pattern

namespace Rule

/-- The rule without its child rules. -/
def heading : Rule → Heading
  | .mk heading _ => heading

/-- The child rules. -/
def children : Rule → List Rule
  | .mk _ children => children

mutual

/-- The headings of a rule and of all rules below it, each before those below it. -/
def headings : Rule → List Heading
  | .mk heading children => heading :: headingsOfList children

/-- The headings of a list of rules and of all rules below them. -/
def headingsOfList : List Rule → List Heading
  | [] => []
  | r :: rs => r.headings ++ headingsOfList rs

end

end Rule

/-- The number of rules at all depths. -/
def nodeCount (p : Pattern) : Nat :=
  (Rule.headingsOfList p.rules).length

/-- Registers a filter. -/
def register (p : Pattern) (name : String) (filter : String → String) :
    Except Filter.InvalidName Pattern :=
  (p.filters.insert name filter).map fun filters => { p with filters }

/-- Registers all filters of a registry. -/
def registerAll (p : Pattern) (filters : Filter.Registry) : Pattern :=
  { p with filters := p.filters.insertAll filters }

/-- The pattern with all filters of a registry as well. -/
def withFilters (p : Pattern) (filters : Filter.Registry) : Pattern :=
  p.registerAll filters

end Pattern

end Harvest
