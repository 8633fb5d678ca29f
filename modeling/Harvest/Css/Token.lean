import Harvest.Text.CodeRanges

/-!
# Tokens of Selectors

Selectors are written in the tokens of style sheets: names with escapes, strings, numbers
with units, and signs. Comments stand for nothing. Brackets and functions hold their
contents, which makes the tokens a list of trees, the *components*. What is open at the end
is closed there.
-/

namespace Harvest.Css

open Text

/-- The kinds of brackets. -/
inductive Bracket where
  /-- `()` -/
  | round
  /-- `[]` -/
  | square
  /-- Braces. -/
  | curly
  deriving DecidableEq, Repr

/-- How a value of an attribute is compared. -/
inductive Comparison where
  /-- The whole value. -/
  | equal
  /-- One of the words of the value. -/
  | includes
  /-- The value or its beginning before a hyphen. -/
  | dash
  /-- The beginning of the value. -/
  | starts
  /-- The end of the value. -/
  | ends
  /-- A part of the value. -/
  | contains
  deriving DecidableEq, Repr

/-- A token. -/
inductive Token where
  /-- A name. -/
  | ident (name : String)
  /-- A name before an opening bracket, which is taken in. -/
  | function (name : String)
  /-- A name after a hash sign; whether it could stand without the sign. -/
  | hash (name : String) (isIdent : Bool)
  /-- A string. -/
  | string (text : String)
  /-- A number: whether it has a sign, and its value if it is written as an integer. -/
  | number (signed : Bool) (value : Option Int)
  /-- A number with a unit. -/
  | dimension (value : Option Int) (unit : String)
  /-- A sign for a comparison, the equals sign alone excepted. -/
  | comparison (comparison : Comparison)
  /-- Blanks. -/
  | blank
  /-- A comma. -/
  | comma
  /-- A colon. -/
  | colon
  /-- An opening bracket. -/
  | opening (bracket : Bracket)
  /-- A closing bracket. -/
  | closing (bracket : Bracket)
  /-- Any other sign. -/
  | delim (c : Char)
  /-- A token that no selector uses. -/
  | unused
  deriving DecidableEq, Repr

/-- A token with its contents. -/
inductive Component where
  /-- A token that holds nothing. -/
  | token (token : Token)
  /-- A function with its arguments. -/
  | function (name : String) (arguments : List Component)
  /-- A pair of brackets. -/
  | block (bracket : Bracket) (contents : List Component)

/-! ### Names and strings -/

/-- The ends of lines. -/
def isLineEnd (c : Char) : Bool :=
  c = '\n' || c = '\r' || c = '\x0c'

/-- Blanks between tokens. -/
def isBlank (c : Char) : Bool :=
  c = ' ' || c = '\t' || isLineEnd c

/-- Whether a character begins a name. -/
def isNameStart (c : Char) : Bool :=
  c.isAlpha || c = '_' || c = '\x00' || 0x80 ≤ c.toNat

/-- Whether a character goes on in a name. -/
def isNameChar (c : Char) : Bool :=
  isNameStart c || c.isDigit || c = '-'

/-- The replacement for characters that cannot be written. -/
def replacementChar : Char := '\ufffd'

/-- A null character counts as the replacement character. -/
def shown (c : Char) : Char :=
  if c = '\x00' then replacementChar else c

/-- Whether a line ends at the start of a text. -/
def startsLineEnd : List Char → Bool
  | c :: _ => isLineEnd c
  | [] => false

/-- Whether a text begins with a name. -/
def startsName : List Char → Bool
  | '-' :: c :: _ => isNameStart c || c = '-' || c = '\\'
  | '\\' :: cs => !startsLineEnd cs
  | c :: _ => isNameStart c
  | [] => false

/-- Whether a text begins with a digit. -/
def startsDigit : List Char → Bool
  | c :: _ => c.isDigit
  | [] => false

/-- Whether a text begins with a number without sign. -/
def startsPlainNumber : List Char → Bool
  | '.' :: cs => startsDigit cs
  | cs => startsDigit cs

/-- The text after a single line end. -/
def dropLineEnd : List Char → List Char
  | '\r' :: '\n' :: cs => cs
  | c :: cs => if isLineEnd c then cs else c :: cs
  | [] => []

/-- Reads what stands after a backslash: a code point in hexadecimal with a blank after it,
or a character that stands for itself. -/
def readEscape (cs : List Char) : Char × List Char :=
  match cs with
  | [] => (replacementChar, [])
  | c :: rest =>
      if (hexDigit? c).isSome then
        let digits := (cs.take 6).takeWhile fun c => (hexDigit? c).isSome
        let n := hexNumber digits
        let rest := match cs.drop digits.length with
          | ' ' :: rest => rest
          | '\t' :: rest => rest
          | rest => dropLineEnd rest
        if n = 0 ∨ 0x10FFFF < n ∨ (0xD800 ≤ n ∧ n ≤ 0xDFFF) then (replacementChar, rest)
        else (Char.ofNat n, rest)
      else (shown c, rest)

/-- Reads the characters of a name; `done` holds those that were read, reversed. Each turn
passes a character, which bounds `fuel`. -/
def readNameFrom : (fuel : Nat) → (done : List Char) → List Char → String × List Char
  | 0, done, cs => (String.ofList done.reverse, cs)
  | fuel + 1, done, cs =>
      match cs with
      | [] => (String.ofList done.reverse, [])
      | c :: rest =>
          if c = '\\' && !startsLineEnd rest then
            let (c, rest) := readEscape rest
            readNameFrom fuel (c :: done) rest
          else if isNameChar c then readNameFrom fuel (shown c :: done) rest
          else (String.ofList done.reverse, cs)

/-- Reads the characters of a name. -/
def readName (cs : List Char) : String × List Char :=
  readNameFrom (cs.length + 1) [] cs

/-- Reads a string after its opening quote; `done` holds what was read, reversed. A line end
that is not escaped breaks the string off. -/
def readStringFrom (quote : Char) : (fuel : Nat) → (done : List Char) → List Char →
    Token × List Char
  | 0, _, cs => (.unused, cs)
  | fuel + 1, done, cs =>
      match cs with
      | [] => (.string (String.ofList done.reverse), [])
      | c :: rest =>
          if c = quote then (.string (String.ofList done.reverse), rest)
          else if isLineEnd c then (.unused, cs)
          else if c = '\\' then
            match rest with
            | [] => (.string (String.ofList done.reverse), [])
            | _ =>
                if startsLineEnd rest then readStringFrom quote fuel done (dropLineEnd rest)
                else
                  let (c, rest) := readEscape rest
                  readStringFrom quote fuel (c :: done) rest
          else readStringFrom quote fuel (shown c :: done) rest

/-- Reads a string after its opening quote. -/
def readString (quote : Char) (cs : List Char) : Token × List Char :=
  readStringFrom quote (cs.length + 1) [] cs

/-- The text after an address that stands without quotes in its brackets. -/
def afterAddress : List Char → List Char
  | [] => []
  | '\\' :: _ :: cs => afterAddress cs
  | ')' :: cs => cs
  | _ :: cs => afterAddress cs

/-- The text after a comment whose opening was passed. -/
def afterComment : List Char → List Char
  | [] => []
  | '*' :: '/' :: cs => cs
  | _ :: cs => afterComment cs

/-- Reads a name and what it begins: a name, a function, or an address without quotes. -/
def readNamed (cs : List Char) : Token × List Char :=
  match readName cs with
  | (name, '(' :: rest) =>
      if name.toLower = "url" then
        match rest.dropWhile isBlank with
        | '"' :: _ => (.function name, rest)
        | '\'' :: _ => (.function name, rest)
        | body => (.unused, afterAddress body)
      else (.function name, rest)
  | (name, rest) => (.ident name, rest)

/-! ### Numbers -/

/-- The least and the greatest integer that a number can have; values beyond are cut off. -/
def clampInteger (n : Int) : Int :=
  max (-(Nat.pow 2 31 : Int)) (min ((Nat.pow 2 31 : Int) - 1) n)

/-- Reads a fraction. -/
def afterFraction? : List Char → Option (List Char)
  | '.' :: cs => if startsDigit cs then some (cs.dropWhile Char.isDigit) else none
  | _ => none

/-- Reads an exponent. -/
def afterExponent? : List Char → Option (List Char)
  | e :: cs =>
      if e = 'e' || e = 'E' then
        let digits := match cs with
          | '+' :: rest => rest
          | '-' :: rest => rest
          | rest => rest
        if startsDigit digits then some (digits.dropWhile Char.isDigit) else none
      else none
  | [] => none

/-- Reads a number and its unit. -/
def readNumber (cs : List Char) : Token × List Char :=
  let (signed, negative, body) := match cs with
    | '+' :: rest => (true, false, rest)
    | '-' :: rest => (true, true, rest)
    | rest => (false, false, rest)
  let digits := body.takeWhile Char.isDigit
  let n : Int := (digits.foldl (fun n c => n * 10 + (c.toNat - '0'.toNat)) 0 : Nat)
  let rest := body.drop digits.length
  let (whole, rest) := match afterFraction? rest with
    | some rest => (false, rest)
    | none => (true, rest)
  let (whole, rest) := match afterExponent? rest with
    | some rest => (false, rest)
    | none => (whole, rest)
  let value := if whole then some (clampInteger (if negative then -n else n)) else none
  match rest with
  | '%' :: rest => (.unused, rest)
  | _ =>
      if startsName rest then
        let (unit, rest) := readName rest
        (.dimension value unit, rest)
      else (.number signed value, rest)

/-! ### All tokens -/

/-- A sign that may be followed by an equals sign. -/
def readSign (c : Char) (comparison : Comparison) (rest : List Char) : Token × List Char :=
  match rest with
  | '=' :: rest => (.comparison comparison, rest)
  | _ => (.delim c, rest)

/-- Reads the token at the start of a text, `none` for a comment. -/
def readToken (c : Char) (rest : List Char) : Option Token × List Char :=
  let yield := fun (r : Token × List Char) => (some r.1, r.2)
  if isBlank c then (some .blank, rest.dropWhile isBlank)
  else if c = '"' || c = '\'' then yield (readString c rest)
  else if c = '#' then
    if startsName rest then
      let (name, rest) := readName rest
      (some (.hash name true), rest)
    else if startsDigit rest || rest.head? = some '-' then
      let (name, rest) := readName rest
      (some (.hash name false), rest)
    else (some (.delim c), rest)
  else if c = '(' then (some (.opening .round), rest)
  else if c = '[' then (some (.opening .square), rest)
  else if c.toNat = 0x7B then (some (.opening .curly), rest)
  else if c = ')' then (some (.closing .round), rest)
  else if c = ']' then (some (.closing .square), rest)
  else if c.toNat = 0x7D then (some (.closing .curly), rest)
  else if c = ',' then (some .comma, rest)
  else if c = ':' then (some .colon, rest)
  else if c = ';' then (some .unused, rest)
  else if c = '$' then yield (readSign c .ends rest)
  else if c = '*' then yield (readSign c .contains rest)
  else if c = '^' then yield (readSign c .starts rest)
  else if c = '|' then yield (readSign c .dash rest)
  else if c = '~' then yield (readSign c .includes rest)
  else if c.isDigit || (c = '.' && startsDigit rest) ||
      ((c = '+' || c = '-') && startsPlainNumber rest) then yield (readNumber (c :: rest))
  else if c = '/' && rest.head? = some '*' then (none, afterComment rest.tail)
  else if c = '-' && rest.take 2 = ['-', '>'] then (some .unused, rest.drop 2)
  else if c = '<' && rest.take 3 = ['!', '-', '-'] then (some .unused, rest.drop 3)
  else if c = '@' && startsName rest then (some .unused, (readName rest).2)
  else if startsName (c :: rest) then yield (readNamed (c :: rest))
  else (some (.delim c), rest)

/-- The tokens of a text. Each turn passes a character, which bounds `fuel`. -/
def readTokens : (fuel : Nat) → List Char → List Token
  | 0, _ => []
  | _ + 1, [] => []
  | fuel + 1, c :: rest =>
      match readToken c rest with
      | (some token, rest) => token :: readTokens fuel rest
      | (none, rest) => readTokens fuel rest

/-! ### Components -/

/-- Contents that were begun and not ended: the bracket that ends them, the name of the
function if they belong to one, and the components so far, the latest first. -/
structure OpenBlock where
  /-- The bracket that ends the contents. -/
  bracket : Bracket
  /-- The name of the function. -/
  function : Option String
  /-- The components so far, the latest first. -/
  contents : List Component

/-- The component that ended contents make. -/
def OpenBlock.finish (b : OpenBlock) : Component :=
  match b.function with
  | some name => .function name b.contents.reverse
  | none => .block b.bracket b.contents.reverse

/-- Nests tokens. The open blocks come innermost first, and `outer` holds the components
outside of them, the latest first. -/
def nest (outer : List Component) : List OpenBlock → List Token → List Component
  | [], [] => outer.reverse
  | [b], [] => (b.finish :: outer).reverse
  | b :: c :: bs, [] => nest outer ({ c with contents := b.finish :: c.contents } :: bs) []
  | blocks, .function name :: ts => nest outer (⟨.round, some name, []⟩ :: blocks) ts
  | blocks, .opening bracket :: ts => nest outer (⟨bracket, none, []⟩ :: blocks) ts
  | [], t :: ts => nest (.token t :: outer) [] ts
  | b :: bs, t :: ts =>
      if t = .closing b.bracket then
        match bs with
        | [] => nest (b.finish :: outer) [] ts
        | c :: bs => nest outer ({ c with contents := b.finish :: c.contents } :: bs) ts
      else nest outer ({ b with contents := .token t :: b.contents } :: bs) ts
-- a token begins one block at most
termination_by blocks ts => 2 * ts.length + blocks.length

/-- The components of a text. -/
def components (text : String) : List Component :=
  let cs := text.toList
  nest [] [] (readTokens (cs.length + 1) cs)

end Harvest.Css
