import Harvest.Pattern.Error

/-!
# Tokens and Lexemes

A pattern source is read in two modes. In *line mode* a bare word is a selector; in
*capture mode*, between brackets, a bare word is an identifier and `=/` opens a regular
expression literal. Each mode has its own lexemes, given here as functions from a rest of
the source to the lexeme that stands at its start: always the longest one.
-/

namespace Harvest.Pattern

/-- What the scanner yields. -/
inductive Token where
  /-- A run of tabs, with its length. -/
  | indent (depth : Nat)
  /-- A question mark. -/
  | questionMark
  /-- A bare word between brackets. -/
  | identifier (text : String)
  /-- A bare word outside brackets. -/
  | selector (text : String)
  /-- A regular expression literal, unescaped. -/
  | regexp (source : String)
  /-- An opening bracket. -/
  | leftBracket
  /-- A closing bracket. -/
  | rightBracket
  /-- A newline with the blank lines after it. -/
  | lineBreak
  /-- The end of the source. -/
  | eof
  deriving DecidableEq, Repr

/-- How a token is shown. -/
def Token.display : Token → String
  | .indent depth => s!"<indent:{depth}>"
  | .questionMark => "<question-mark>"
  | .identifier text => s!"<identifier:{text}>"
  | .selector text => s!"<selector:{text}>"
  | .regexp source => s!"<regexp:{source}>"
  | .leftBracket => "<left-bracket>"
  | .rightBracket => "<right-bracket>"
  | .lineBreak => "<line-break>"
  | .eof => "<eof>"

/-- A token, the characters it was read from and the characters after them. -/
structure Lexeme where
  /-- The token. -/
  token : Token
  /-- The characters of the lexeme. -/
  text : List Char
  /-- The source after the lexeme. -/
  rest : List Char

/-- The number of newlines in a text. -/
def newlines (cs : List Char) : Nat :=
  cs.count '\n'

/-- Tabs, spaces and line ends, which end every bare word. -/
def isSpacing (c : Char) : Bool :=
  c == ' ' || c == '\t' || c == '\r' || c == '\n'

/-- What is skipped between the lexemes of a line: spaces and carriage returns. -/
def isLineBlank (c : Char) : Bool :=
  c == ' ' || c == '\r'

/-- What is skipped between the lexemes of a capture: spaces, carriage returns and tabs. -/
def isCaptureBlank (c : Char) : Bool :=
  c == ' ' || c == '\r' || c == '\t'

/-- What a line break takes in after its newline. -/
def isBreakBlank (c : Char) : Bool :=
  c == ' ' || c == '\r' || c == '\n'

/-- The characters of a selector after its first. -/
def isSelectorChar (c : Char) : Bool :=
  !isSpacing c

/-- The characters of an identifier after its first. -/
def isIdentifierChar (c : Char) : Bool :=
  !isSpacing c && c != '(' && c != ')' && c != '='

/-- The lexeme made of a first character and all characters after it that satisfy `p`. -/
def Lexeme.run (p : Char → Bool) (token : List Char → Token) (c : Char) (cs : List Char) :
    Lexeme :=
  let text := c :: cs.takeWhile p
  ⟨token text, text, cs.dropWhile p⟩

/-- The lexeme at the start of a rest of the source in line mode, after blanks have been
skipped; `none` at the end of the source. Every other rest has one. -/
def lineLexeme? : List Char → Option Lexeme
  | [] => none
  | c :: cs => some <|
      if c = '\t' then .run (· == '\t') (fun text => .indent text.length) c cs
      else if c = '\n' then .run isBreakBlank (fun _ => .lineBreak) c cs
      else if c = '?' then ⟨.questionMark, [c], cs⟩
      else if c = '(' then ⟨.leftBracket, [c], cs⟩
      else if c = ')' then ⟨.rightBracket, [c], cs⟩
      else .run isSelectorChar (fun text => .selector (String.ofList text)) c cs

/-! ### Regular expression literals -/

/-- What a backslash and the character after it stand for in a literal. Escapes that the
literal does not know are kept, so that the regular expression sees them. -/
def unescape (c : Char) : List Char :=
  if c = '/' then ['/']
  else if c = '\\' then ['\\']
  else if c = 'n' then ['\n']
  else if c = 't' then ['\t']
  else ['\\', c]

/-- The body of a literal: its unescaped text, the number of characters up to and with the
closing slash, and the source after it. -/
structure LiteralBody where
  /-- The unescaped text. -/
  value : List Char
  /-- The characters up to and with the closing slash. -/
  text : List Char
  /-- The source after the closing slash. -/
  rest : List Char

/-- Reads the body of a literal up to the first slash that no backslash escapes. `value`
and `text` hold what was read before, latest first. -/
def literalBodyFrom (value text : List Char) : List Char → Option LiteralBody
  | [] => none
  | '/' :: cs => some ⟨value.reverse, ('/' :: text).reverse, cs⟩
  | '\\' :: [] => none
  | '\\' :: c :: cs => literalBodyFrom ((unescape c).reverse ++ value) (c :: '\\' :: text) cs
  | c :: cs => literalBodyFrom (c :: value) (c :: text) cs

/-- Reads the body of a literal; `none` when it has no end. -/
def literalBody? (cs : List Char) : Option LiteralBody :=
  literalBodyFrom [] [] cs

/-- The lexeme at the start of a rest of the source in capture mode, after blanks have been
skipped; `none` at the end of the source, and a fault where no lexeme starts. -/
def captureLexeme? : List Char → Except ScanFault (Option Lexeme)
  | [] => .ok none
  | c :: cs =>
      if c = '?' then .ok (some ⟨.questionMark, [c], cs⟩)
      else if c = '(' then .ok (some ⟨.leftBracket, [c], cs⟩)
      else if c = ')' then .ok (some ⟨.rightBracket, [c], cs⟩)
      else if c = '\n' then .error .unclosedCapture
      else if c = '=' then
        match cs with
        | '/' :: body =>
            match literalBody? body with
            | some b =>
                .ok (some ⟨.regexp (String.ofList b.value), '=' :: '/' :: b.text, b.rest⟩)
            | none => .error .unterminatedRegex
        | _ => .error .expectedSlash
      else .ok (some (.run isIdentifierChar (fun text => .identifier (String.ofList text)) c cs))

end Harvest.Pattern
