import Harvest.Css.Selector

/-!
# Reading Selectors

`Selector.read?` reads a selector from its text. Alternatives are separated by commas, and
every one of them has to be well formed; only `:is` and `:where` pass over alternatives that
are not. The classes of elements that depend on a user or a style are not known here, nor
are parts of elements, so a selector with one of those is not well formed.
-/

namespace Harvest.Css

/-- The components after leading blanks. -/
def skipBlanks : List Component → List Component
  | .token .blank :: cs => skipBlanks cs
  | cs => cs

/-- Whether components are blank throughout. -/
def isAllBlank (cs : List Component) : Bool :=
  (skipBlanks cs).isEmpty

/-- The parts of a list of components between commas. -/
def splitAtCommas : List Component → List (List Component)
  | [] => [[]]
  | .token .comma :: cs => [] :: splitAtCommas cs
  | c :: cs =>
      match splitAtCommas cs with
      | part :: parts => (c :: part) :: parts
      | [] => [[c]]

/-! ### Positions -/

/-- The digits after `n-` in a name such as `n-3`. -/
def digitsAfterDash? (name : List Char) : Option Int :=
  match name with
  | n :: '-' :: d :: ds =>
      if n.toLower = 'n' && (d :: ds).all Char.isDigit then
        let value := (d :: ds).foldl (fun n c => n * 10 + (c.toNat - '0'.toNat)) 0
        some (clampInteger (-(value : Int)))
      else none
  | _ => none

/-- Reads an integer without sign. -/
def readPlainInteger? (cs : List Component) : Option (Int × List Component) :=
  match skipBlanks cs with
  | .token (.number false (some b)) :: rest => some (b, rest)
  | _ => none

/-- Reads the offset after a step. -/
def readOffset? (cs : List Component) : Option (Int × List Component) :=
  match skipBlanks cs with
  | .token (.delim '+') :: rest => readPlainInteger? rest
  | .token (.delim '-') :: rest => (readPlainInteger? rest).map fun (b, rest) => (-b, rest)
  | .token (.number true (some b)) :: rest => some (b, rest)
  | _ => some (0, cs)

/-- Reads what follows the unit of a step: `n` may have an offset after it, `n-` needs one,
and other units hold it. -/
def readStepRest? (step : Int) (unit : String) (cs : List Component) :
    Option (Int × Int × List Component) :=
  let lower := unit.toLower
  if lower = "n" then (readOffset? cs).map fun (b, rest) => (step, b, rest)
  else if lower = "n-" then (readPlainInteger? cs).map fun (b, rest) => (step, -b, rest)
  else (digitsAfterDash? unit.toList).map fun b => (step, b, cs)

/-- Reads a step and an offset, with the rest after them. -/
def readStepAndOffset? (cs : List Component) : Option (Int × Int × List Component) :=
  match skipBlanks cs with
  | .token (.number _ (some b)) :: rest => some (0, b, rest)
  | .token (.dimension (some a) unit) :: rest => readStepRest? a unit rest
  | .token (.ident name) :: rest =>
      let lower := name.toLower
      if lower = "even" then some (2, 0, rest)
      else if lower = "odd" then some (2, 1, rest)
      else
        match name.toList with
        | '-' :: unit => readStepRest? (-1) (String.ofList unit) rest
        | _ => readStepRest? 1 name rest
  | .token (.delim '+') :: .token (.ident name) :: rest => readStepRest? 1 name rest
  | _ => none

/-- Reads the argument of a test of position. -/
def readPosition? (fromEnd ofType : Bool) (cs : List Component) : Option Test :=
  match readStepAndOffset? cs with
  | some (step, offset, rest) =>
      if isAllBlank rest then some (.position ⟨step, offset, fromEnd, ofType⟩) else none
  | none => none

/-! ### Attributes -/

/-- Reads the name in a test of an attribute. -/
def readAttributeName? : List Component → Option (Bool × String × List Component)
  | .token (.ident _) :: .token (.delim '|') :: _ => none
  | .token (.ident name) :: rest => some (false, name, rest)
  | .token (.delim '*') :: .token (.delim '|') :: .token (.ident name) :: rest =>
      some (true, name, rest)
  | .token (.delim '|') :: .token (.ident name) :: rest => some (false, name, rest)
  | _ => none

/-- The comparison that a token stands for. -/
def comparison? : Component → Option Comparison
  | .token (.delim '=') => some .equal
  | .token (.comparison c) => some c
  | _ => none

/-- Reads the letter that says how case is treated. -/
def readCaseRule? (cs : List Component) : Option CaseRule :=
  match skipBlanks cs with
  | [] => some .byName
  | .token (.ident flag) :: rest =>
      if !isAllBlank rest then none
      else if flag.toLower = "i" then some .ignored
      else if flag.toLower = "s" then some .respected
      else none
  | _ => none

/-- Reads the value that an attribute is compared with. -/
def readValue? (cs : List Component) : Option (String × List Component) :=
  match skipBlanks cs with
  | .token (.ident value) :: rest => some (value, rest)
  | .token (.string value) :: rest => some (value, rest)
  | _ => none

/-- Reads the contents of a test of an attribute. -/
def readAttribute? (cs : List Component) : Option Test := do
  let (anySpace, name, rest) ← readAttributeName? (skipBlanks cs)
  match skipBlanks rest with
  | [] => pure (.attribute ⟨anySpace, name, none⟩)
  | sign :: rest =>
      let comparison ← comparison? sign
      let (value, rest) ← readValue? rest
      let rule ← readCaseRule? rest
      pure (.attribute ⟨anySpace, name, some (comparison, value, rule)⟩)

/-! ### Tests -/

/-- A test of the position of a first or last sibling. -/
def edge (fromEnd ofType : Bool) : Test :=
  .position ⟨0, 1, fromEnd, ofType⟩

/-- The tests that a class of elements without argument stands for. -/
def namedClass? (name : String) : Option (List Test) :=
  match name.toLower with
  | "first-child" => some [edge false false]
  | "last-child" => some [edge true false]
  | "only-child" => some [edge false false, edge true false]
  | "first-of-type" => some [edge false true]
  | "last-of-type" => some [edge true true]
  | "only-of-type" => some [edge false true, edge true true]
  | "root" => some [.root]
  | "scope" => some [.root]
  | "empty" => some [.empty]
  | _ => none

/-- Reads the test of an element's name, if one stands at the start. The outer option is for
malformed names. -/
def readName? : List Component → Option (List Test × List Component)
  | .token (.ident name) :: cs =>
      match cs with
      | .token (.delim '|') :: _ => none
      | _ => some ([.name name], cs)
  | .token (.delim '*') :: .token (.delim '|') :: cs =>
      match cs with
      | .token (.delim '*') :: cs => some ([.any], cs)
      | .token (.ident name) :: cs => some ([.name name], cs)
      | _ => none
  | .token (.delim '*') :: cs => some ([.any], cs)
  | .token (.delim '|') :: cs =>
      match cs with
      | .token (.delim '*') :: cs => some ([.never], cs)
      | .token (.ident _) :: cs => some ([.never], cs)
      | _ => none
  | cs => some ([], cs)

/-- Reads the tests that stand one after the other without blanks, and the rest after them.
`functionClass` reads a class of elements with an argument. -/
def readTests? (functionClass : String → List Component → Option Test) :
    List Component → Option (List Test × List Component)
  | .token (.hash name true) :: cs => do
      let (tests, rest) ← readTests? functionClass cs
      pure (.id name :: tests, rest)
  | .token (.delim '.') :: .token (.ident name) :: cs => do
      let (tests, rest) ← readTests? functionClass cs
      pure (.ofClass name :: tests, rest)
  | .token (.delim '.') :: _ => none
  | .block .square contents :: cs => do
      let test ← readAttribute? contents
      let (tests, rest) ← readTests? functionClass cs
      pure (test :: tests, rest)
  | .token .colon :: .token (.ident name) :: cs => do
      let named ← namedClass? name
      let (tests, rest) ← readTests? functionClass cs
      pure (named ++ tests, rest)
  | .token .colon :: .function name arguments :: cs => do
      let test ← functionClass name arguments
      let (tests, rest) ← readTests? functionClass cs
      pure (test :: tests, rest)
  | .token .colon :: _ => none
  | cs => some ([], cs)

/-- Reads all tests of one element, of which there has to be at least one. -/
def readElement? (functionClass : String → List Component → Option Test)
    (cs : List Component) : Option (List Test × List Component) := do
  let (name, rest) ← readName? (skipBlanks cs)
  let (tests, rest) ← readTests? functionClass rest
  if (name ++ tests).isEmpty then none else pure (name ++ tests, rest)

/-! ### Alternatives -/

/-- Reads a combinator, if one stands at the start. Blanks alone stand for descent, unless
nothing follows them. -/
def readCombinator? (cs : List Component) : Option (Combinator × List Component) :=
  match skipBlanks cs with
  | [] => none
  | .token (.delim '>') :: rest => some (.child, rest)
  | .token (.delim '+') :: rest => some (.next, rest)
  | .token (.delim '~') :: rest => some (.later, rest)
  | rest => if rest.length < cs.length then some (.descendant, rest) else none

/-- Reads the steps that follow an element; each takes a component, which bounds `fuel`.
The result has the first step first. -/
def readSteps? (functionClass : String → List Component → Option Test) :
    (fuel : Nat) → List Component → Option (List (Combinator × List Test))
  | 0, _ => none
  | fuel + 1, cs =>
      match readCombinator? cs with
      | none => if isAllBlank cs then some [] else none
      | some (combinator, rest) => do
          let (tests, rest) ← readElement? functionClass rest
          let steps ← readSteps? functionClass fuel rest
          pure ((combinator, tests) :: steps)

/-- Turns steps forward from an element into steps backward from the last one. -/
def turnAround (tests : List Test) (back : List Step) : List (Combinator × List Test) →
    Alternative
  | [] => .mk tests back
  | (combinator, next) :: steps => turnAround next (.mk combinator tests :: back) steps

/-- Reads an alternative. -/
def readAlternative? (functionClass : String → List Component → Option Test)
    (cs : List Component) : Option Alternative := do
  let (tests, rest) ← readElement? functionClass cs
  let steps ← readSteps? functionClass (cs.length + 1) rest
  pure (turnAround tests [] steps)

/-- Reads a path. It leads to descendants if it does not begin with a combinator. -/
def readPath? (functionClass : String → List Component → Option Test)
    (cs : List Component) : Option Path := do
  let (combinator, rest) := (readCombinator? cs).getD (.descendant, cs)
  let (tests, rest) ← readElement? functionClass rest
  let steps ← readSteps? functionClass (cs.length + 1) rest
  pure (.mk (.mk combinator tests :: steps.map fun step => .mk step.1 step.2))

/-- Reads a class of elements with an argument. Functions nest at most `depth` deep, and
paths do not nest. -/
def readFunctionClass? : (depth : Nat) → (pathsAllowed : Bool) → String → List Component →
    Option Test
  | 0, _, _, _ => none
  | depth + 1, pathsAllowed, name, cs =>
      match name.toLower with
      | "nth-child" => readPosition? false false cs
      | "nth-last-child" => readPosition? true false cs
      | "nth-of-type" => readPosition? false true cs
      | "nth-last-of-type" => readPosition? true true cs
      | "is" | "where" =>
          let inner := readFunctionClass? depth pathsAllowed
          some (.some ((splitAtCommas cs).filterMap (readAlternative? inner)))
      | "not" =>
          let inner := readFunctionClass? depth pathsAllowed
          ((splitAtCommas cs).mapM (readAlternative? inner)).map .none
      | "has" =>
          let inner := readFunctionClass? depth false
          if pathsAllowed then ((splitAtCommas cs).mapM (readPath? inner)).map .leadsTo else none
      | _ => none

/-- Reads a selector. -/
def Selector.read? (text : String) : Option Selector :=
  let functionClass := readFunctionClass? (text.length + 1) true
  ((splitAtCommas (components text)).mapM (readAlternative? functionClass)).map Selector.mk

end Harvest.Css
