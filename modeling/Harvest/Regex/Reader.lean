import Harvest.Regex.Expr
import Harvest.Regex.Fold
import Harvest.Regex.Property
import Harvest.Text.Letter

/-!
# Reading Regular Expressions

The concrete form of regular expressions: alternation, groups (plain, named, or with
flags), greedy and lazy repetition, bracketed classes with ranges, nesting and set
operations, escapes, and conditions on positions. There are no back references and no
conditions on what surrounds a match.

Flags are resolved while reading. A group of flags holds until the end of the group it
stands in, across alternatives. The flags are `i` (ignore case), `m` (`^` and `$` at line
ends), `s` (the dot takes newlines), `R` (a carriage return ends lines too), `U` (swap greedy
and lazy), `u` (Unicode classes and words) and `x` (skip blanks and comments).

The reader keeps a stack of open groups, so that its recursion runs along the text alone.
-/

namespace Harvest.Regex

open Text (isBlank isLetter isAlphanumeric hexDigit?)

/-- The flags in force. -/
structure Flags where
  /-- Whether case is ignored. -/
  ignoreCase : Bool := false
  /-- Whether `^` and `$` hold at line ends. -/
  multiLine : Bool := false
  /-- Whether the dot takes newlines. -/
  dotAll : Bool := false
  /-- Whether a carriage return ends lines too. -/
  returns : Bool := false
  /-- Whether repetitions are lazy unless marked. -/
  swapGreed : Bool := false
  /-- Whether classes and words are those of Unicode. -/
  unicode : Bool := true
  /-- Whether blanks and comments are skipped. -/
  verbose : Bool := false

/-- A comment without the characters up to its end. -/
def dropComment : List Char → List Char
  | [] => []
  | '\n' :: cs => cs
  | _ :: cs => dropComment cs

/-- Skips blanks and comments, `fuel` of them at most. -/
def skipVerbose : (fuel : Nat) → List Char → List Char
  | 0, cs => cs
  | _, [] => []
  | fuel + 1, c :: cs =>
      if isBlank c then skipVerbose fuel cs
      else if c = '#' then skipVerbose fuel (dropComment cs)
      else c :: cs

/-- Skips blanks and comments if the flags say so. -/
def skipSpace (f : Flags) (cs : List Char) : List Char :=
  if f.verbose then skipVerbose cs.length cs else cs

/-- The character after the next one, blanks skipped as a range inside a class sees it. -/
def peekPast (f : Flags) : List Char → Option Char
  | [] => none
  | _ :: cs =>
      if f.verbose then
        match cs.dropWhile isBlank with
        | '#' :: rest => (rest.dropWhile isBlank).head?
        | rest => rest.head?
      else cs.head?

/-! ### Escapes -/

/-- What an escape or a plain character stands for. -/
inductive Atom where
  /-- A character; `octet` when it was written as two hexadecimal digits. -/
  | literal (c : Char) (octet : Bool)
  /-- A class. -/
  | set (s : CodeSet)
  /-- A condition on the position. -/
  | look (l : Look)

/-- The character of a code point that is no surrogate. -/
def scalar? (n : Nat) : Option Char :=
  if n < 0xD800 ∨ (0xE000 ≤ n ∧ n ≤ 0x10FFFF) then some (Char.ofNat n) else none

/-- Reads a fixed number of hexadecimal digits. -/
def readHexFixed (f : Flags) : Nat → Nat → List Char → Option (Nat × List Char)
  | 0, value, cs => some (value, cs)
  | n + 1, value, c :: cs =>
      match hexDigit? c with
      | some d => readHexFixed f n (value * 16 + d) (skipSpace f cs)
      | none => none
  | _ + 1, _, [] => none

/-- Reads hexadecimal digits up to a closing brace; `fuel` bounds their number. -/
def readHexBraced (f : Flags) : (fuel : Nat) → (count value : Nat) → List Char →
    Option (Nat × List Char)
  | 0, _, _, _ => none
  | _, _, _, [] => none
  | fuel + 1, count, value, c :: cs =>
      if c.toNat = 0x7D then
        if count = 0 then none else some (value, skipSpace f cs)
      else match hexDigit? c with
        | some d => readHexBraced f fuel (count + 1) (value * 16 + d) (skipSpace f cs)
        | none => none

/-- Reads the code point of an escape with the given number of fixed digits. -/
def readHex (f : Flags) (digits : Nat) (cs : List Char) : Option (Atom × List Char) :=
  match skipSpace f cs with
  | [] => none
  | c :: rest =>
      if c.toNat = 0x7B then do
        let (n, rest) ← readHexBraced f rest.length 0 0 (skipSpace f rest)
        let c ← scalar? n
        pure (.literal c false, rest)
      else do
        let (n, rest) ← readHexFixed f digits 0 (c :: rest)
        let c ← scalar? n
        pure (.literal c (digits == 2), rest)

/-- Splits a text at the first occurrence of a character. -/
def splitAt? (sep : Char) (cs : List Char) : Option (List Char × List Char) :=
  match cs.dropWhile (· != sep) with
  | _ :: rest => some (cs.takeWhile (· != sep), rest)
  | [] => none

/-- Splits a text at the first `!=`. -/
def splitUnequal? : List Char → List Char → Option (List Char × List Char)
  | _, [] => none
  | before, '!' :: '=' :: rest => some (before.reverse, rest)
  | before, c :: rest => splitUnequal? (c :: before) rest

/-- The set that the name of a Unicode class stands for, and whether it is negated. -/
def unicodeClass? (name : List Char) : Option (CodeSet × Bool) :=
  match splitUnequal? [] name with
  | some (n, v) => (valuedSet? n v).map (·, true)
  | none =>
      match splitAt? ':' name with
      | some (n, v) => (valuedSet? n v).map (·, false)
      | none =>
          match splitAt? '=' name with
          | some (n, v) => (valuedSet? n v).map (·, false)
          | none => (namedSet? name).map (·, false)

/-- Reads characters up to a closing brace, blanks skipped. -/
def readBraced (f : Flags) : (fuel : Nat) → (found : List Char) → List Char →
    Option (List Char × List Char)
  | 0, _, _ => none
  | _, _, [] => none
  | fuel + 1, found, c :: cs =>
      if c.toNat = 0x7D then some (found.reverse, cs)
      else readBraced f fuel (c :: found) (skipSpace f cs)

/-- Closes a class under case if the flags say so, and then negates it. -/
def foldAndNegate (f : Flags) (negated : Bool) (s : CodeSet) : Option CodeSet :=
  if f.unicode then
    let s := if f.ignoreCase then s.closeUnderCase else s
    some (if negated then s.complement else s)
  else if negated then none
  else some (if f.ignoreCase then s.closeUnderAsciiCase else s)

/-- Reads a Unicode class after its `p`. -/
def readUnicodeClass (f : Flags) (negated : Bool) (cs : List Char) :
    Option (Atom × List Char) := do
  let (name, rest) ← match skipSpace f cs with
    | [] => none
    | c :: rest =>
        if c.toNat = 0x7B then readBraced f (rest.length + 1) [] (skipSpace f rest)
        else if c = '\\' then none
        else some ([c], skipSpace f rest)
  if !f.unicode then none
  else
    let (s, unequal) ← unicodeClass? name
    let s ← foldAndNegate f (negated != unequal) s
    pure (.set s, rest)

/-- The members of a class of ASCII characters, by its name. -/
def asciiClass? (name : String) : Option CodeSet :=
  let upper : List (Nat × Nat) := [(0x41, 0x5A)]
  let lower : List (Nat × Nat) := [(0x61, 0x7A)]
  let digit : List (Nat × Nat) := [(0x30, 0x39)]
  (match name with
    | "alnum" => some (digit ++ upper ++ lower)
    | "alpha" => some (upper ++ lower)
    | "ascii" => some [(0, 0x7F)]
    | "blank" => some [(0x9, 0x9), (0x20, 0x20)]
    | "cntrl" => some [(0, 0x1F), (0x7F, 0x7F)]
    | "digit" => some digit
    | "graph" => some [(0x21, 0x7E)]
    | "lower" => some lower
    | "print" => some [(0x20, 0x7E)]
    | "punct" => some [(0x21, 0x2F), (0x3A, 0x40), (0x5B, 0x60), (0x7B, 0x7E)]
    | "space" => some [(0x9, 0xD), (0x20, 0x20)]
    | "upper" => some upper
    | "word" => some (digit ++ upper ++ [(0x5F, 0x5F)] ++ lower)
    | "xdigit" => some (digit ++ [(0x41, 0x46), (0x61, 0x66)])
    | _ => none).map CodeSet.ofRanges

/-- The class that a letter after a backslash stands for: digits, blanks or words. -/
def letterClass (f : Flags) (c : Char) : Option CodeSet :=
  let lowered := c.toLower
  let negated := c != lowered
  let s :=
    if f.unicode then
      if lowered = 'd' then lookupTable categoryTables "nd"
      else if lowered = 's' then lookupTable propertyTables "whitespace"
      else some (CodeSet.ofTable wordTable)
    else if lowered = 'd' then asciiClass? "digit"
    else if lowered = 's' then asciiClass? "space"
    else asciiClass? "word"
  match s with
  | some s => if negated then (if f.unicode then some s.complement else none) else some s
  | none => none

/-- Whether a character may follow a backslash to stand for itself. -/
def isEscapable (c : Char) : Bool :=
  c.toNat < 128 && !c.isAlphanum && c != '<' && c != '>'

/-- Reads the braced ending of a word boundary, if it is one: `none` for an error, and
`some none` when the brace begins a repetition. -/
def readBoundaryKind (f : Flags) (cs : List Char) : Option (Option (Look × List Char)) :=
  let isNameChar (c : Char) : Bool := c.isAlpha || c == '-'
  let rec collect : (fuel : Nat) → (found : List Char) → List Char → List Char × List Char
    | 0, found, cs => (found.reverse, cs)
    | _, found, [] => (found.reverse, [])
    | fuel + 1, found, c :: cs =>
        if isNameChar c then collect fuel (c :: found) (skipSpace f cs)
        else (found.reverse, c :: cs)
  match skipSpace f cs with
  | [] => none
  | c :: rest =>
      if !isNameChar c then some none
      else
        let (name, rest) := collect (rest.length + 1) [] (c :: rest)
        match rest with
        | close :: rest =>
            if close.toNat = 0x7D then
              match String.ofList name with
              | "start" => some (some (.wordStart f.unicode, rest))
              | "end" => some (some (.wordFinish f.unicode, rest))
              | "start-half" => some (some (.wordStartHalf f.unicode, rest))
              | "end-half" => some (some (.wordFinishHalf f.unicode, rest))
              | _ => none
            else none
        | [] => none

/-- Reads an escape after its backslash. -/
def readEscape (f : Flags) : List Char → Option (Atom × List Char)
  | [] => none
  | c :: cs =>
      if c.isDigit then none
      else if c = 'x' then readHex f 2 cs
      else if c = 'u' then readHex f 4 cs
      else if c = 'U' then readHex f 8 cs
      else if c = 'p' then readUnicodeClass f false cs
      else if c = 'P' then readUnicodeClass f true cs
      else if c = 'd' ∨ c = 's' ∨ c = 'w' ∨ c = 'D' ∨ c = 'S' ∨ c = 'W' then
        (letterClass f c).map fun s => (.set s, cs)
      else if isEscapable c then some (.literal c false, cs)
      else if c = 'a' then some (.literal '\x07' false, cs)
      else if c = 'f' then some (.literal '\x0C' false, cs)
      else if c = 't' then some (.literal '\t' false, cs)
      else if c = 'n' then some (.literal '\n' false, cs)
      else if c = 'r' then some (.literal '\r' false, cs)
      else if c = 'v' then some (.literal '\x0B' false, cs)
      else if c = 'A' then some (.look .start, cs)
      else if c = 'z' then some (.look .finish, cs)
      else if c = 'b' then
        match cs with
        | b :: rest =>
            if b.toNat = 0x7B then
              match readBoundaryKind f rest with
              | none => none
              | some none => some (.look (.boundary f.unicode), cs)
              | some (some (l, rest)) => some (.look l, rest)
            else some (.look (.boundary f.unicode), cs)
        | [] => some (.look (.boundary f.unicode), cs)
      else if c = 'B' then some (.look (.noBoundary f.unicode), cs)
      else if c = '<' then some (.look (.wordStart f.unicode), cs)
      else if c = '>' then some (.look (.wordFinish f.unicode), cs)
      else none

/-! ### Bracketed classes -/

/-- A union of class items under construction: the members so far, the number of items and
their greatest nesting. -/
structure UnionPart where
  /-- The members so far. -/
  set : CodeSet := .empty
  /-- The number of items. -/
  count : Nat := 0
  /-- The greatest nesting of an item. -/
  depth : Nat := 0

/-- Adds an item. -/
def UnionPart.push (u : UnionPart) (s : CodeSet) (depth : Nat) : UnionPart :=
  ⟨u.set.union s, u.count + 1, Nat.max u.depth depth⟩

/-- The members of a finished part of a class, and its nesting. -/
structure ClassValue where
  /-- The members. -/
  set : CodeSet
  /-- The nesting. -/
  depth : Nat

/-- A finished union; more than one item nest one level deeper. -/
def UnionPart.close (u : UnionPart) : ClassValue :=
  ⟨u.set, if u.count ≤ 1 then u.depth else u.depth + 1⟩

/-- The operations on sets inside a class. -/
inductive SetOperation where
  /-- The members of both. -/
  | intersection
  /-- The members of the left alone. -/
  | difference
  /-- The members of exactly one. -/
  | symmetric

/-- What is open while a class is read. -/
inductive ClassFrame where
  /-- A bracket, with the union it stands in. -/
  | bracket (outer : UnionPart) (negated : Bool)
  /-- An operation that waits for its right side. -/
  | operation (kind : SetOperation) (left : ClassValue)

/-- Applies an operation. -/
def SetOperation.apply (f : Flags) (kind : SetOperation) (l r : CodeSet) : CodeSet :=
  let close (s : CodeSet) : CodeSet :=
    if f.ignoreCase then (if f.unicode then s.closeUnderCase else s.closeUnderAsciiCase) else s
  match kind with
  | .intersection => (close l).inter (close r)
  | .difference => (close l).diff (close r)
  | .symmetric => (close l).symmDiff (close r)

/-- Completes the operation on top of the stack, if there is one. -/
def closeOperation (f : Flags) (right : ClassValue) (stack : List ClassFrame) :
    ClassValue × List ClassFrame :=
  match stack with
  | .operation kind left :: rest =>
      (⟨kind.apply f left.set right.set, Nat.max left.depth right.depth + 1⟩, rest)
  | _ => (right, stack)

/-- Reads hyphens at the start of a class, which stand for themselves. -/
def readHyphens (f : Flags) : (fuel : Nat) → UnionPart → List Char → UnionPart × List Char
  | fuel + 1, u, '-' :: cs => readHyphens f fuel (u.push (.single '-') 0) (skipSpace f cs)
  | _, u, cs => (u, cs)

/-- Reads the opening of a class after its bracket: whether it is negated, and the items
that only stand for themselves there. -/
def readClassOpening (f : Flags) (cs : List Char) : Option (Bool × UnionPart × List Char) :=
  let cs := skipSpace f cs
  let (negated, cs) := match cs with
    | '^' :: rest => (true, skipSpace f rest)
    | rest => (false, rest)
  let (u, cs) := readHyphens f cs.length {} cs
  match cs with
  | [] => none
  | ']' :: rest =>
      if u.count = 0 then
        match skipSpace f rest with
        | [] => none
        | rest => some (negated, u.push (.single ']') 0, rest)
      else some (negated, u, cs)
  | _ => some (negated, u, cs)

/-- Reads a class of ASCII characters after its first bracket, `:name:]` or `:^name:]`. -/
def readAsciiClass? : List Char → Option (String × Bool × List Char)
  | ':' :: cs =>
      let (negated, cs) := match cs with
        | '^' :: rest => (true, rest)
        | rest => (false, rest)
      match cs.dropWhile (· != ':') with
      | ':' :: ']' :: rest => some (String.ofList (cs.takeWhile (· != ':')), negated, rest)
      | _ => none
  | _ => none

/-- Whether a literal may stand in a class under the flags. -/
def classLiteral? (f : Flags) (c : Char) : Option Char :=
  if f.unicode || c.toNat < 128 then some c else none

/-- Reads one end of a range or a single item. -/
def readClassAtom (f : Flags) : List Char → Option (Atom × List Char)
  | [] => none
  | '\\' :: cs => readEscape f cs
  | c :: cs => some (.literal c false, cs)

/-- Reads an item of a class: a character, a class or a range. -/
def readClassItem (f : Flags) (cs : List Char) : Option (CodeSet × List Char) := do
  let (first, cs) ← readClassAtom f cs
  let cs := skipSpace f cs
  let single : Option CodeSet := match first with
    | .literal c _ => (classLiteral? f c).map .single
    | .set s => some s
    | .look _ => none
  match cs with
  | [] => none
  | '-' :: rest =>
      if peekPast f cs = some ']' ∨ peekPast f cs = some '-' then
        single.map (·, cs)
      else
        let (second, rest) ← readClassAtom f (skipSpace f rest)
        match first, second with
        | .literal lo _, .literal hi _ =>
            let lo ← classLiteral? f lo
            let hi ← classLiteral? f hi
            if lo.toNat ≤ hi.toNat then some (.range lo.toNat hi.toNat, rest) else none
        | _, _ => none
  | _ => single.map (·, cs)

/-- Reads a class whose first bracket has been opened, one item at a time. -/
def readClassFrom (f : Flags) : (fuel : Nat) → List ClassFrame → UnionPart → List Char →
    Option (ClassValue × List Char)
  | 0, _, _, _ => none
  | fuel + 1, stack, u, cs =>
      match skipSpace f cs with
      | [] => none
      | '[' :: rest =>
          match readAsciiClass? rest with
          | some (name, negated, after) =>
              match asciiClass? name with
              | some s =>
                  match foldAndNegate f negated s with
                  | some s => readClassFrom f fuel stack (u.push s 0) after
                  | none => none
              | none => openClass fuel stack u rest
          | none => openClass fuel stack u rest
      | ']' :: rest =>
          let (value, stack) := closeOperation f u.close stack
          match stack with
          | .bracket outer negated :: stack =>
              match foldAndNegate f negated value.set with
              | none => none
              | some s =>
                  if stack.isEmpty then some (⟨s, value.depth + 1⟩, rest)
                  else readClassFrom f fuel stack (outer.push s (value.depth + 1)) rest
          | _ => none
      | '&' :: '&' :: rest => readClassFrom f fuel (operate .intersection stack u) {} rest
      | '-' :: '-' :: rest => readClassFrom f fuel (operate .difference stack u) {} rest
      | '~' :: '~' :: rest => readClassFrom f fuel (operate .symmetric stack u) {} rest
      | cs =>
          match readClassItem f cs with
          | some (s, rest) => readClassFrom f fuel stack (u.push s 0) rest
          | none => none
termination_by fuel => 2 * fuel
where
  /-- Opens a nested bracket. -/
  openClass (fuel : Nat) (stack : List ClassFrame) (u : UnionPart) (rest : List Char) :
      Option (ClassValue × List Char) :=
    match readClassOpening f rest with
    | some (negated, inner, rest) => readClassFrom f fuel (.bracket u negated :: stack) inner rest
    | none => none
  termination_by 2 * fuel + 1
  /-- Puts an operation on the stack, with what was read so far on its left. -/
  operate (kind : SetOperation) (stack : List ClassFrame) (u : UnionPart) : List ClassFrame :=
    let (left, stack) := closeOperation f u.close stack
    .operation kind left :: stack

/-- Reads a class after its opening bracket. -/
def readClass (f : Flags) (cs : List Char) : Option (ClassValue × List Char) := do
  let (negated, u, rest) ← readClassOpening f cs
  readClassFrom f (rest.length + 1) [.bracket {} negated] u rest

/-! ### Expressions -/

/-- A part of an alternative: the expression, how deeply it nests, and whether it can be
repeated, which a group of flags cannot. -/
structure Item where
  /-- The expression. -/
  expr : Expr
  /-- The nesting. -/
  depth : Nat
  /-- Whether a repetition may follow. -/
  repeatable : Bool

/-- An open group: what stands around it. -/
structure Frame where
  /-- The items before the group, latest first. -/
  items : List Item
  /-- The alternatives before the group, latest first. -/
  branches : List Item
  /-- The flags to return to. -/
  flags : Flags
  /-- The index of the group, if it captures. -/
  index : Option Nat

/-- The state of the reader. -/
structure Reader where
  /-- The text that is left. -/
  rest : List Char
  /-- The flags in force. -/
  flags : Flags
  /-- The items of the alternative being read, latest first. -/
  items : List Item
  /-- The finished alternatives of the group being read, latest first. -/
  branches : List Item
  /-- The open groups, innermost first. -/
  frames : List Frame
  /-- The number of capture groups opened. -/
  groups : Nat
  /-- The names of capture groups. -/
  names : List (String × Nat)

/-- The greatest nesting of items. -/
def deepest (items : List Item) : Nat :=
  items.foldl (fun n i => Nat.max n i.depth) 0

/-- One alternative from its items, latest first. -/
def closeItems (items : List Item) : Item :=
  match items with
  | [] => ⟨.empty, 0, true⟩
  | [i] => i
  | _ => ⟨.concat (items.reverse.map Item.expr), deepest items + 1, true⟩

/-- A whole group from its alternatives, latest first. -/
def closeBranches (branches : List Item) : Item :=
  match branches with
  | [b] => b
  | _ => ⟨.alternate (branches.reverse.map Item.expr), deepest branches + 1, true⟩

/-- The greatest nesting that is read. -/
def nestLimit : Nat := 250

/-- The set of one literal character, with its case variants if case is ignored. -/
def literalExpr (f : Flags) (c : Char) (octet : Bool) : Option Expr :=
  if !f.unicode && octet && 128 ≤ c.toNat then none
  else
    let s := CodeSet.single c
    some <| .chars <|
      if !f.ignoreCase then s
      else if f.unicode then s.closeUnderCase
      else s.closeUnderAsciiCase

/-- What the dot stands for. -/
def dotExpr (f : Flags) : Option Expr :=
  if !f.unicode then none
  else if f.dotAll then some (.chars .full)
  else if f.returns then some (.chars (CodeSet.ofRanges [(10, 10), (13, 13)]).complement)
  else some (.chars (CodeSet.single '\n').complement)

/-- Reads a decimal number, blanks around its digits skipped. -/
def readDecimal (f : Flags) (cs : List Char) : Option (Nat × List Char) :=
  let cs := cs.dropWhile isBlank
  let rec digits : (fuel : Nat) → (count value : Nat) → List Char → Nat × Nat × List Char
    | 0, count, value, cs => (count, value, cs)
    | _, count, value, [] => (count, value, [])
    | fuel + 1, count, value, c :: cs =>
        if c.isDigit then
          digits fuel (count + 1) (value * 10 + (c.toNat - '0'.toNat)) (skipSpace f cs)
        else (count, value, c :: cs)
  let (count, value, rest) := digits cs.length 0 0 cs
  if count = 0 ∨ Nat.pow 2 32 ≤ value then none else some (value, rest.dropWhile isBlank)

/-- Reads the bounds of a counted repetition after its brace. -/
def readBounds (f : Flags) (cs : List Char) : Option (Nat × Option Nat × List Char) := do
  let (min, cs) ← readDecimal f (skipSpace f cs)
  match cs with
  | ',' :: rest =>
      let rest := skipSpace f rest
      match rest with
      | [] => none
      | c :: after =>
          if c.toNat = 0x7D then some (min, none, after)
          else
            let (max, rest) ← readDecimal f rest
            match rest with
            | close :: after =>
                if close.toNat = 0x7D ∧ min ≤ max then some (min, some max, after) else none
            | [] => none
  | c :: after => if c.toNat = 0x7D then some (min, some min, after) else none
  | [] => none

/-- Whether a character may stand in the name of a group. -/
def isGroupNameChar (c : Char) (first : Bool) : Bool :=
  if first then c == '_' || isLetter c
  else c == '_' || c == '.' || c == '[' || c == ']' || isAlphanumeric c

/-- Reads the name of a group up to its closing angle. -/
def readGroupName (cs : List Char) : Option (String × List Char) :=
  let name := cs.takeWhile (· != '>')
  match name, cs.dropWhile (· != '>') with
  | c :: more, _ :: rest =>
      if isGroupNameChar c true && more.all (isGroupNameChar · false) then
        some (String.ofList name, rest)
      else none
  | _, _ => none

/-- A flag switched on or off. -/
def Flags.set (f : Flags) (c : Char) (on : Bool) : Option Flags :=
  if c = 'i' then some { f with ignoreCase := on }
  else if c = 'm' then some { f with multiLine := on }
  else if c = 's' then some { f with dotAll := on }
  else if c = 'U' then some { f with swapGreed := on }
  else if c = 'u' then some { f with unicode := on }
  else if c = 'R' then some { f with returns := on }
  else if c = 'x' then some { f with verbose := on }
  else none

/-- Reads flags up to a colon or a closing bracket: the flags after them, how many
characters they have, and the text from there on. -/
def readFlags (f : Flags) (on : Bool) (seen : List Char) : List Char →
    Option (Flags × Nat × List Char)
  | [] => none
  | c :: cs =>
      if c = ':' ∨ c = ')' then
        if seen.head? = some '-' then none else some (f, seen.length, c :: cs)
      else if seen.contains c then none
      else if c = '-' then readFlags f false (c :: seen) cs
      else match f.set c on with
        | some f => readFlags f on (c :: seen) cs
        | none => none

/-- Opens a group with the given flags inside. -/
def Reader.push (r : Reader) (inside : Flags) (index : Option Nat) (rest : List Char) : Reader :=
  { r with
    rest := rest
    flags := inside
    items := []
    branches := []
    frames := ⟨r.items, r.branches, r.flags, index⟩ :: r.frames }

/-- Opens a capture group. -/
def Reader.pushCapture (r : Reader) (name : Option String) (rest : List Char) : Option Reader :=
  let index := r.groups + 1
  match name with
  | none => some { r.push r.flags (some index) rest with groups := index }
  | some name =>
      if (r.names.lookup name).isSome then none
      else some { r.push r.flags (some index) rest with
        groups := index
        names := (name, index) :: r.names }

/-- Reads the opening of a group after its bracket. -/
def Reader.openGroup (r : Reader) (cs : List Char) : Option Reader :=
  match skipSpace r.flags cs with
  | '?' :: '=' :: _ => none
  | '?' :: '!' :: _ => none
  | '?' :: '<' :: '=' :: _ => none
  | '?' :: '<' :: '!' :: _ => none
  | '?' :: 'P' :: '<' :: rest => do
      let (name, rest) ← readGroupName rest
      r.pushCapture (some name) rest
  | '?' :: '<' :: rest => do
      let (name, rest) ← readGroupName rest
      r.pushCapture (some name) rest
  | '?' :: rest => do
      let (flags, count, rest) ← readFlags r.flags true [] rest
      match rest with
      | ')' :: rest =>
          if count = 0 then none
          else some { r with
            rest := rest
            flags := flags
            items := ⟨.empty, 0, false⟩ :: r.items }
      | _ :: rest => some (r.push flags none rest)
      | [] => none
  | rest => r.pushCapture none rest

/-- Closes a group after its bracket. -/
def Reader.closeGroup (r : Reader) (rest : List Char) : Option Reader :=
  match r.frames with
  | [] => none
  | frame :: frames =>
      let body := closeBranches (closeItems r.items :: r.branches)
      let expr := match frame.index with
        | some index => .group index body.expr
        | none => body.expr
      some { r with
        rest := rest
        flags := frame.flags
        items := ⟨expr, body.depth + 1, true⟩ :: frame.items
        branches := frame.branches
        frames := frames }

/-- Repeats the item read last. -/
def Reader.repeatLast (r : Reader) (min : Nat) (max : Option Nat) (rest : List Char) :
    Option Reader :=
  match r.items with
  | [] => none
  | item :: items =>
      if !item.repeatable then none
      else
        let (lazy, rest) := match rest with
          | '?' :: rest => (true, rest)
          | rest => (false, rest)
        let greedy := lazy == r.flags.swapGreed
        some { r with
          rest := rest
          items := ⟨item.expr.repetition min max greedy, item.depth + 1, true⟩ :: items }

/-- Adds an item. -/
def Reader.add (r : Reader) (expr : Expr) (depth : Nat) (rest : List Char) : Reader :=
  { r with rest := rest, items := ⟨expr, depth, true⟩ :: r.items }

/-- Reads one piece of the text, whose first character is `c`. -/
def Reader.step (r : Reader) (c : Char) (cs : List Char) : Option Reader :=
  let f := r.flags
  if c = '(' then r.openGroup cs
  else if c = ')' then r.closeGroup cs
  else if c = '|' then
    some { r with rest := cs, items := [], branches := closeItems r.items :: r.branches }
  else if c = '[' then
    (readClass f cs).map fun (value, rest) => r.add (.chars value.set) value.depth rest
  else if c = '?' then r.repeatLast 0 (some 1) cs
  else if c = '*' then r.repeatLast 0 none cs
  else if c = '+' then r.repeatLast 1 none cs
  else if c.toNat = 0x7B then
    match readBounds f cs with
    | some (min, max, rest) => r.repeatLast min max (skipSpace f rest)
    | none => none
  else if c = '\\' then
    match readEscape f cs with
    | some (.literal c octet, rest) => (literalExpr f c octet).map fun e => r.add e 0 rest
    | some (.set s, rest) => some (r.add (.chars s) 0 rest)
    | some (.look l, rest) => some (r.add (.look l) 0 rest)
    | none => none
  else if c = '.' then (dotExpr f).map fun e => r.add e 0 cs
  else if c = '^' then
    some (r.add (.look (if !f.multiLine then .start
      else if f.returns then .startLineReturn else .startLine)) 0 cs)
  else if c = '$' then
    some (r.add (.look (if !f.multiLine then .finish
      else if f.returns then .finishLineReturn else .finishLine)) 0 cs)
  else (literalExpr f c false).map fun e => r.add e 0 cs

/-- Reads to the end of the text. Every step takes at least one character. -/
def Reader.run : (fuel : Nat) → Reader → Option Reader
  | 0, _ => none
  | fuel + 1, r =>
      match skipSpace r.flags r.rest with
      | [] => some { r with rest := [] }
      | c :: cs =>
          match r.step c cs with
          | some r => run fuel r
          | none => none

/-- A regular expression as read: its shape and the names of its groups. -/
structure Source where
  /-- The shape. -/
  expr : Expr
  /-- The names of groups with their indices. -/
  names : List (String × Nat)

/-- Reads a regular expression. -/
def read? (text : List Char) : Option Source := do
  let r ← Reader.run (text.length + 1) ⟨text, {}, [], [], [], 0, []⟩
  if !r.frames.isEmpty then none
  else
    let whole := closeBranches (closeItems r.items :: r.branches)
    if nestLimit < whole.depth then none else some ⟨whole.expr, r.names⟩

end Harvest.Regex
