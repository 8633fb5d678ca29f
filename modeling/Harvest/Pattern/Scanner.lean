import Harvest.Pattern.Error
import Harvest.Pattern.Token

/-!
# The Scanner

The scanner reads a source one token at a time. An opening bracket takes it from line mode
to capture mode and a closing one back; the newlines it has passed are counted through
every change of mode, so that each token comes with the line it starts on.

After the end of the source, and after a fault, every further step yields the end of the
source and leaves the line as it is.

* `Scanner.scan`: one step.
* `scanAll`: all steps up to the end of the source or the first fault.
* `tokenize`: the tokens of a source that scans.
-/

namespace Harvest.Pattern

/-- How the next lexeme is read. -/
inductive Mode where
  /-- Outside brackets. -/
  | line
  /-- Between brackets. -/
  | capture
  /-- After the end of the source or a fault. -/
  | done
  deriving DecidableEq, Repr

/-- The state of the scanner. -/
structure Scanner where
  /-- How the next lexeme is read. -/
  mode : Mode
  /-- The source that is left. -/
  rest : List Char
  /-- The newlines passed so far. -/
  passed : Nat
  /-- The line on which the token read last starts, counted from one. -/
  line : Nat

namespace Scanner

/-- A scanner at the start of a source. -/
def start (source : List Char) : Scanner :=
  ⟨.line, source, 0, 1⟩

/-- The scanner that has stopped, on the given line. -/
def stop (s : Scanner) (line : Nat) : Scanner :=
  ⟨.done, [], s.passed, line⟩

/-- The mode after a token. -/
def modeAfter (mode : Mode) : Token → Mode
  | .leftBracket => .capture
  | .rightBracket => .line
  | _ => mode

/-- The scanner after a lexeme. -/
def advance (s : Scanner) (l : Lexeme) : Scanner :=
  ⟨modeAfter s.mode l.token, l.rest, s.passed + newlines l.text, s.passed + 1⟩

/-- Reads the next token. A literal without end is reported on the last line of the source,
where scanning stopped; every other fault on the line of the character that shows it. -/
def scan (s : Scanner) : Except CompileError Token × Scanner :=
  let line := s.passed + 1
  match s.mode with
  | .done => (.ok .eof, s)
  | .line =>
      match lineLexeme? (s.rest.dropWhile isLineBlank) with
      | none => (.ok .eof, s.stop line)
      | some l => (.ok l.token, s.advance l)
  | .capture =>
      match captureLexeme? (s.rest.dropWhile isCaptureBlank) with
      | .ok none => (.ok .eof, s.stop line)
      | .ok (some l) => (.ok l.token, s.advance l)
      | .error fault =>
          let at_ := match fault with
            | .unterminatedRegex => line + newlines s.rest
            | _ => line
          (.error ⟨at_, .scan fault⟩, s.stop at_)

end Scanner

/-- All that the scanner yields for a source: tokens, each with its line, and how they end,
with the line of the end of the source or with a fault. -/
structure Scan where
  /-- The tokens, each with the line it starts on. -/
  tokens : List (Token × Nat)
  /-- The line of the end of the source, or the fault. -/
  ending : Except CompileError Nat

/-- Steps a scanner to the end of its source, `found` holding the tokens so far, latest
first. Each step but the last passes a character, so `fuel` more than the characters left
is enough. -/
def scanFrom : (fuel : Nat) → Scanner → (found : List (Token × Nat)) → Scan
  | 0, s, found => ⟨found.reverse, .ok s.line⟩
  | fuel + 1, s, found =>
      match s.scan with
      | (.error e, _) => ⟨found.reverse, .error e⟩
      | (.ok .eof, s') => ⟨found.reverse, .ok s'.line⟩
      | (.ok token, s') => scanFrom fuel s' ((token, s'.line) :: found)

/-- Scans a whole source. -/
def scanAll (source : List Char) : Scan :=
  scanFrom (source.length + 1) (.start source) []

/-- The tokens of a source, each with the line it starts on, without the end of the source. -/
def tokenize (source : String) : Except CompileError (List (Token × Nat)) :=
  let s := scanAll source.toList
  match s.ending with
  | .ok _ => .ok s.tokens
  | .error e => .error e

end Harvest.Pattern
