import Harvest.Diagnostics

/-!
# Faults of a Pattern Source

What can be wrong with a pattern, as causes, and the text of each. A compile error is a
cause together with the line it was found on.

A fault of a selector or of a regular expression carries the text that was refused and what its
reader says about it. These words are implicit, as is the source of an expression: a case
distinction by the kind of a fault does not have to name them.
-/

namespace Harvest.Pattern

/-- What stops the scanner. -/
inductive ScanFault where
  /-- A regular expression literal has no closing slash. -/
  | unterminatedRegex
  /-- An equals sign does not open a literal. -/
  | expectedSlash
  /-- A line or the source ends inside a capture. -/
  | unclosedCapture
  /-- A character starts no lexeme. -/
  | unexpected
  deriving DecidableEq, Repr

/-- What stops the compiler. -/
inductive CompileFault where
  /-- The scanner stopped. -/
  | scan (fault : ScanFault)
  /-- A selector is malformed. -/
  | selector (text : String) {words : String}
  /-- A regular expression is malformed. -/
  | regex {source words : String}
  /-- The first line that holds a selector is indented. -/
  | unexpectedIndent
  /-- A line holds a second selector. -/
  | extraSelector (text : String)
  /-- A capture has no attribute, or a literal stands before it. -/
  | emptyCapture
  /-- A capture has an attribute and no target. -/
  | noTargets (key : String)
  /-- A regular expression has fewer groups than its capture has targets. -/
  | missingGroups (groups targets : Nat)
  /-- A capture has a second regular expression. -/
  | duplicateRegex
  /-- A capture is opened inside a capture. -/
  | nestedCapture
  /-- A capture is closed that was not opened. -/
  | unmatchedBracket
  /-- A target has an empty field or filter name. -/
  | emptySegment (target : String)
  /-- A token stands where its mode does not put it. -/
  | unexpectedToken (description : String)
  deriving DecidableEq, Repr

/-- A fault and the line it was found on, counted from one. -/
structure CompileError where
  /-- The line, counted from one. -/
  line : Nat
  /-- The cause. -/
  fault : CompileFault
  deriving DecidableEq, Repr

/-- The text of a scanner fault. -/
def ScanFault.message : ScanFault → String
  | .unterminatedRegex => "unterminated regular expression literal"
  | .expectedSlash => "expected `/` after `=`"
  | .unclosedCapture => "capture is missing its closing `)`"
  | .unexpected => "unexpected character"

/-- The fault of a selector that its reader refuses. -/
def CompileFault.ofSelector [Diagnostics] (text : String) : CompileFault :=
  @selector text (Diagnostics.selector text)

/-- The fault of a regular expression that its reader refuses. -/
def CompileFault.ofExpression [Diagnostics] (source : String) : CompileFault :=
  @regex source (Diagnostics.expression source)

/-- The text of a compiler fault. What the readers of selectors and of regular expressions say is
carried by the fault, and it is left out where no words are given. -/
def CompileFault.message : CompileFault → String
  | .scan fault => fault.message
  | @selector text words => messageOfChain [s!"invalid selector `{text}`", words]
  | @regex _ words => messageOfChain ["invalid regular expression", words]
  | .unexpectedIndent => "indented line has no parent pattern"
  | .extraSelector text => s!"a line holds a single selector, found extra `{text}`"
  | .emptyCapture => "capture has no attribute"
  | .noTargets key => s!"capture on `{key}` has no targets"
  | .missingGroups groups targets =>
      s!"regular expression has {groups} capture groups for {targets} targets"
  | .duplicateRegex => "capture already has a regular expression"
  | .nestedCapture => "`(` inside an open capture"
  | .unmatchedBracket => "`)` without a matching `(`"
  | .emptySegment target => s!"empty segment in target `{target}`"
  | .unexpectedToken description => s!"unexpected {description}"

/-- The text of a compile error, the line first. -/
def CompileError.message (e : CompileError) : String :=
  s!"line {e.line}: {e.fault.message}"

end Harvest.Pattern
