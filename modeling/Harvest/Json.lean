import Harvest.Text.Quoted

/-!
# Writing JSON

The part of JSON that records need: texts, lists and objects. A layout says where lines
break and what stands after a key; between brackets that hold nothing no line breaks.
-/

namespace Harvest

/-- A value to be written. -/
inductive Json where
  /-- A text. -/
  | text (s : String)
  /-- A list. -/
  | list (items : List Json)
  /-- An object. Its entries are written in the given order. -/
  | object (entries : List (String × Json))

namespace Json

/-! ### Texts -/

/-- Writes a character of a text. Quotes, backslashes and controls are escaped. -/
def writeChar (c : Char) : List Char :=
  if c = '"' then ['\\', '"']
  else if c = '\\' then ['\\', '\\']
  else if c = '\n' then ['\\', 'n']
  else if c = '\r' then ['\\', 'r']
  else if c = '\t' then ['\\', 't']
  else if c = '\x08' then ['\\', 'b']
  else if c = '\x0c' then ['\\', 'f']
  else if c.toNat < 16 then ['\\', 'u', '0', '0', '0'] ++ Text.hexDigits c.toNat
  else if c < ' ' then ['\\', 'u', '0', '0'] ++ Text.hexDigits c.toNat
  else [c]

/-- Writes a text between quotes. -/
def writeText (s : String) : List Char :=
  '"' :: s.toList.flatMap writeChar ++ ['"']

/-! ### Layouts -/

/-- How values are laid out. -/
structure Layout where
  /-- What stands before an item at a depth, and before the bracket that closes it. -/
  lineBreak : (depth : Nat) → List Char
  /-- What stands between a key and its value. -/
  afterKey : List Char

/-- Everything on one line. -/
def Layout.compact : Layout :=
  ⟨fun _ => [], [':']⟩

/-- Every item on a line of its own, two spaces deeper than what it belongs to. -/
def Layout.indented : Layout :=
  ⟨fun depth => '\n' :: List.replicate (2 * depth) ' ', [':', ' ']⟩

mutual

/-- Writes a value at a depth. -/
def write (l : Layout) (depth : Nat) : Json → List Char
  | .text s => writeText s
  | .list [] => ['[', ']']
  | .list (v :: vs) =>
      '[' :: l.lineBreak (depth + 1) ++ write l (depth + 1) v ++ writeItems l (depth + 1) vs ++
        l.lineBreak depth ++ [']']
  | .object [] => ['\x7b', '\x7d']
  | .object ((key, v) :: entries) =>
      '\x7b' :: l.lineBreak (depth + 1) ++ writeText key ++ l.afterKey ++
        write l (depth + 1) v ++ writeEntries l (depth + 1) entries ++
        l.lineBreak depth ++ ['\x7d']

/-- Writes the items of a list after the first one. -/
def writeItems (l : Layout) (depth : Nat) : List Json → List Char
  | [] => []
  | v :: vs => ',' :: l.lineBreak depth ++ write l depth v ++ writeItems l depth vs

/-- Writes the entries of an object after the first one. -/
def writeEntries (l : Layout) (depth : Nat) : List (String × Json) → List Char
  | [] => []
  | (key, v) :: entries =>
      ',' :: l.lineBreak depth ++ writeText key ++ l.afterKey ++ write l depth v ++
        writeEntries l depth entries

end

/-- The text of a value, indented or on one line. -/
def render (pretty : Bool) (v : Json) : String :=
  String.ofList (write (if pretty then .indented else .compact) 0 v)

end Json

end Harvest
