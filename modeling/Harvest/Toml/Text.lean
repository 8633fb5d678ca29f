import Harvest.Text.CodeRanges

/-!
# Blanks, Texts and Keys

Reading functions take the characters that are left and give what they read together with
the characters after it, or nothing if what they look for is not there.

Texts stand between double quotes, with escapes, or between single quotes, without. Three
quotes in a row enclose a text that may go over several lines.
-/

namespace Harvest.Toml

open Text (hexDigit?)

/-- A function that reads from the start of a text. -/
abbrev Reading (α : Type) := List Char → Option (α × List Char)

/-- Reads again and again as long as something is read. -/
def many {α : Type} (item : Reading α) (cs : List Char) : List α × List Char :=
  match item cs with
  | none => ([], cs)
  | some (a, rest) =>
      if rest.length < cs.length then
        let (as, rest) := many item rest
        (a :: as, rest)
      else ([], cs)
termination_by cs.length

/-! ### Blanks -/

/-- The characters that separate words on a line. -/
def isSpace (c : Char) : Bool :=
  c = ' ' || c = '\t'

/-- The text after leading spaces. -/
def dropSpaces (cs : List Char) : List Char :=
  cs.dropWhile isSpace

/-- The characters that may stand in a comment and between single quotes: all but the
controls, of which only the tab may. -/
def isPlain (c : Char) : Bool :=
  c = '\t' || (' ' ≤ c && c ≠ '\x7f')

/-- Reads the end of a line. -/
def readLineEnd? : Reading Unit
  | '\n' :: cs => some ((), cs)
  | '\r' :: '\n' :: cs => some ((), cs)
  | _ => none

/-- Drops a comment, up to the end of its line. -/
def dropComment : List Char → List Char
  | '#' :: cs => cs.dropWhile isPlain
  | cs => cs

/-- Reads blanks, then perhaps a comment, up to the end of the line. -/
def readBlankLine? (cs : List Char) : Option (Unit × List Char) :=
  readLineEnd? (dropComment (dropSpaces cs))

/-- The text after leading blanks, line ends and comments. -/
def dropBlanks (cs : List Char) : List Char :=
  dropSpaces (many readBlankLine? cs).2

/-- Reads what may follow a statement on its line: blanks, a comment, and the end of the
line or of the text. -/
def readTrailing? (cs : List Char) : Option (Unit × List Char) :=
  match dropComment (dropSpaces cs) with
  | [] => some ((), [])
  | rest => readLineEnd? rest

/-! ### Texts -/

/-- The character with a code point written in hexadecimal. -/
def charOfHex? (digits : List Char) : Option Char := do
  let values ← digits.mapM hexDigit?
  let n := values.foldl (fun n d => n * 16 + d) 0
  if n.isValidChar then some (Char.ofNat n) else none

/-- Reads a character from the given number of hexadecimal digits. -/
def readHexChar? (count : Nat) (cs : List Char) : Option (Char × List Char) :=
  if cs.length < count then none
  else (charOfHex? (cs.take count)).map fun c => (c, cs.drop count)

/-- Reads what follows the backslash of an escape. -/
def readEscape? : Reading Char
  | 'b' :: cs => some ('\x08', cs)
  | 't' :: cs => some ('\t', cs)
  | 'n' :: cs => some ('\n', cs)
  | 'f' :: cs => some ('\x0c', cs)
  | 'r' :: cs => some ('\r', cs)
  | '"' :: cs => some ('"', cs)
  | '\\' :: cs => some ('\\', cs)
  | 'u' :: cs => readHexChar? 4 cs
  | 'U' :: cs => readHexChar? 8 cs
  | _ => none

/-- Reads one character between double quotes. -/
def readQuotedChar? : Reading (List Char)
  | '\\' :: cs => (readEscape? cs).map fun (c, rest) => ([c], rest)
  | c :: cs => if isPlain c && c ≠ '"' then some ([c], cs) else none
  | [] => none

/-- Reads one character between single quotes. -/
def readLiteralChar? : Reading (List Char)
  | c :: cs => if isPlain c && c ≠ '\'' then some ([c], cs) else none
  | [] => none

/-- Reads a text on one line, after its opening quote. -/
def readLine? (quote : Char) (item : Reading (List Char)) (cs : List Char) :
    Option (String × List Char) :=
  match many item cs with
  | (pieces, c :: rest) => if c = quote then some (String.ofList pieces.flatten, rest) else none
  | (_, []) => none

/-- The number of quotes at the start of a text. -/
def countQuotes (quote : Char) (cs : List Char) : Nat :=
  (cs.takeWhile (· = quote)).length

/-- Reads a line break between three quotes. Both forms give the same character. -/
def readBreak? (cs : List Char) : Option (List Char × List Char) :=
  (readLineEnd? cs).map fun (_, rest) => (['\n'], rest)

/-- Reads one character, or quotes, between three double quotes. A backslash before a line
end takes away all blanks up to the next character. -/
def readQuotedPiece? (cs : List Char) : Option (List Char × List Char) :=
  match cs with
  | '\\' :: rest =>
      match readLineEnd? (dropSpaces rest) with
      | some (_, rest) =>
          some ([], (many (fun cs => readLineEnd? (dropSpaces cs)) rest).2.dropWhile isSpace)
      | none => readQuotedChar? cs
  | '"' :: _ =>
      let n := countQuotes '"' cs
      if n < 3 then some (List.replicate n '"', cs.drop n) else none
  | _ => readQuotedChar? cs <|> readBreak? cs

/-- Reads one character, or quotes, between three single quotes. -/
def readLiteralPiece? (cs : List Char) : Option (List Char × List Char) :=
  match cs with
  | '\'' :: _ =>
      let n := countQuotes '\'' cs
      if n < 3 then some (List.replicate n '\'', cs.drop n) else none
  | _ => readLiteralChar? cs <|> readBreak? cs

/-- Reads a text over several lines, after its three opening quotes. A line break right
after them does not count. Up to two quotes before the three closing ones belong to the
text. -/
def readLines? (quote : Char) (piece : Reading (List Char)) (cs : List Char) :
    Option (String × List Char) :=
  let start := match readLineEnd? cs with
    | some (_, rest) => rest
    | none => cs
  let (pieces, rest) := many piece start
  let n := countQuotes quote rest
  if n < 3 then none
  else
    let kept := min (n - 3) 2
    some (String.ofList (pieces.flatten ++ List.replicate kept quote), rest.drop (kept + 3))

/-- Reads a text on one line, with its quotes. -/
def readShortText? : Reading String
  | '"' :: cs => readLine? '"' readQuotedChar? cs
  | '\'' :: cs => readLine? '\'' readLiteralChar? cs
  | _ => none

/-- Reads a text, with its quotes. -/
def readText? : Reading String
  | '"' :: '"' :: '"' :: cs => readLines? '"' readQuotedPiece? cs
  | '\'' :: '\'' :: '\'' :: cs => readLines? '\'' readLiteralPiece? cs
  | cs => readShortText? cs

/-! ### Keys -/

/-- The characters of a key without quotes. -/
def isBare (c : Char) : Bool :=
  c.isAlphanum || c = '_' || c = '-'

/-- Reads a key. -/
def readKey? (cs : List Char) : Option (String × List Char) :=
  match cs with
  | c :: _ =>
      if c = '"' ∨ c = '\'' then readShortText? cs
      else if isBare c then some (String.ofList (cs.takeWhile isBare), cs.dropWhile isBare)
      else none
  | [] => none

/-- Reads a key with the blanks around it. -/
def readSpacedKey? (cs : List Char) : Option (String × List Char) :=
  (readKey? (dropSpaces cs)).map fun (key, rest) => (key, dropSpaces rest)

/-- Reads a point and a key. -/
def readNextKey? : Reading String
  | '.' :: cs => readSpacedKey? cs
  | _ => none

/-- No value lies deeper than this. -/
def depthLimit : Nat := 80

/-- Reads keys with points between them: the ones on the way and the last one. -/
def readPath? (cs : List Char) : Option ((List String × String) × List Char) :=
  match readSpacedKey? cs with
  | none => none
  | some (first, rest) =>
      let (more, rest) := many readNextKey? rest
      let keys := first :: more
      if keys.length < depthLimit then
        some ((keys.dropLast, keys.getLast?.getD first), rest)
      else none

end Harvest.Toml
