import Harvest.Pattern.Rule
import Harvest.Pattern.Scanner

/-!
# Lines

The tokens between two line breaks make a line. A line with a selector becomes the heading
of a rule; one without contributes nothing. Tabs count as indentation only if they come
first.

* `LineDraft.push`: one token of a line.
* `LineDraft.finish`: the end of a line.
* `readLines`: all lines of a scanned source, stopping at the first error.
-/

namespace Harvest.Pattern

/-- A capture whose closing bracket has not come yet. -/
structure CaptureDraft where
  /-- The key of the attribute, in lower case. -/
  key : Option String
  /-- The regular expression. -/
  expression : Option Expression
  /-- The targets, in order. -/
  targets : List Target

namespace CaptureDraft

/-- A capture right after its opening bracket. -/
def empty : CaptureDraft := ⟨none, none, []⟩

/-- A bare word: the first one is the key of the attribute, every later one a target. -/
def addIdentifier (c : CaptureDraft) (text : String) : Except CompileFault CaptureDraft :=
  match c.key with
  | none => .ok { c with key := some (Text.lower text) }
  | some _ => (Target.parse text).map fun target => { c with targets := c.targets ++ [target] }

/-- A regular expression. It stands after the key, and there is one at most. -/
def addExpression [Diagnostics] (c : CaptureDraft) (source : String) :
    Except CompileFault CaptureDraft :=
  if c.key.isNone then .error .emptyCapture
  else if c.expression.isSome then .error .duplicateRegex
  else
    match Regex.compile? source with
    | some regex => .ok { c with expression := some ⟨source, regex⟩ }
    | none => .error (.ofExpression source)

/-- The closing bracket. There is at least one target, and a regular expression has a group
for every target. -/
def finish (c : CaptureDraft) : Except CompileFault Capture :=
  match c.key with
  | none => .error .emptyCapture
  | some key =>
      if c.targets.isEmpty then .error (.noTargets key)
      else
        let capture : Capture := ⟨.ofKey key, c.expression, c.targets⟩
        match c.expression with
        | none => .ok capture
        | some e =>
            if e.regex.groups < c.targets.length then
              .error (.missingGroups e.regex.groups c.targets.length)
            else .ok capture

end CaptureDraft

/-- A line with a selector. -/
structure Line where
  /-- The number of its first token's line. -/
  number : Nat
  /-- The number of tabs it begins with. -/
  depth : Nat
  /-- The rule it makes. -/
  heading : Heading

/-- A line that has not ended yet. -/
structure LineDraft where
  /-- The line of the first token. -/
  number : Option Nat
  /-- The number of tabs at the start. -/
  depth : Nat
  /-- The selector, as written and read. -/
  selector : Option (String × Css.Selector)
  /-- Whether a question mark was read. -/
  optional : Bool
  /-- The finished captures, in order. -/
  captures : List Capture
  /-- The capture that is open. -/
  openCapture : Option CaptureDraft

namespace LineDraft

/-- A line before its first token. -/
def empty : LineDraft := ⟨none, 0, none, false, [], none⟩

/-- A selector. A line has one at most. -/
def addSelector [Diagnostics] (d : LineDraft) (text : String) : Except CompileFault LineDraft :=
  if d.selector.isSome then .error (.extraSelector text)
  else
    match Css.Selector.read? text with
    | some selector => .ok { d with selector := some (text, selector) }
    | none => .error (.ofSelector text)

/-- Changes the open capture. Without one the token described is out of place. -/
def inCapture (d : LineDraft) (description : String)
    (change : CaptureDraft → Except CompileFault CaptureDraft) : Except CompileFault LineDraft :=
  match d.openCapture with
  | none => .error (.unexpectedToken description)
  | some c => (change c).map fun c => { d with openCapture := some c }

/-- One token of a line, apart from its line number. `first` tells that the line has no
other token yet. -/
def add [Diagnostics] (d : LineDraft) (first : Bool) : Token → Except CompileFault LineDraft
  | .indent depth => .ok (if first then { d with depth } else d)
  | .selector text => d.addSelector text
  | .questionMark => .ok { d with optional := true }
  | .leftBracket =>
      if d.openCapture.isSome then .error .nestedCapture
      else .ok { d with openCapture := some .empty }
  | .rightBracket =>
      match d.openCapture with
      | none => .error .unmatchedBracket
      | some c =>
          c.finish.map fun capture =>
            { d with openCapture := none, captures := d.captures ++ [capture] }
  | .identifier text =>
      d.inCapture s!"identifier `{text}`" fun c => c.addIdentifier text
  | .regexp source => d.inCapture "regular expression" fun c => c.addExpression source
  | .lineBreak => .ok d
  | .eof => .ok d

/-- One token of a line. Its faults are reported on the line it starts on. -/
def push [Diagnostics] (d : LineDraft) (token : Token) (line : Nat) :
    Except CompileError LineDraft :=
  match { d with number := some (d.number.getD line) }.add d.number.isNone token with
  | .ok d => .ok d
  | .error fault => .error ⟨line, fault⟩

/-- The end of a line, on line `line`: the line that was made, if it has a selector. -/
def finish (d : LineDraft) (line : Nat) : Except CompileError (Option Line) :=
  if d.openCapture.isSome then .error ⟨line, .scan .unclosedCapture⟩
  else
    match d.selector with
    | none => .ok none
    | some (text, selector) =>
        .ok (some ⟨d.number.getD line, d.depth, ⟨text, selector, d.optional, d.captures⟩⟩)

end LineDraft

/-- The lines that tokens make, after a line that has begun with `d`; `ending` is how the
tokens end. -/
def readLinesFrom [Diagnostics] (ending : Except CompileError Nat) :
    LineDraft → List (Token × Nat) → Except CompileError (List Line)
  | d, [] =>
      match ending with
      | .error e => .error e
      | .ok line => (d.finish line).map Option.toList
  | d, (token, line) :: rest =>
      if token = .lineBreak then do
        let made ← d.finish line
        let lines ← readLinesFrom ending .empty rest
        pure (made.toList ++ lines)
      else do
        let d ← d.push token line
        readLinesFrom ending d rest

/-- The lines of a scanned source. -/
def readLines [Diagnostics] (s : Scan) : Except CompileError (List Line) :=
  readLinesFrom s.ending .empty s.tokens

end Harvest.Pattern
