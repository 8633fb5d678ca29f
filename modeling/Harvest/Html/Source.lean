import Harvest.Html.ForeignRules

/-!
# Reading Sources

A source is read by turns: the characters at hand give tokens, the tokens change the tree,
and the tree says how the characters after them are to be read, for instance as the text of
a script. `Builder.read` takes the turns from a given state to the end of a source.
-/

namespace Harvest.Html

/-! ### Texts up to an end tag -/

/-- The rest of a text after `</` and a name, if the name ends there. -/
def afterEndTagName? (name : List Char) : List Char → Option (List Char)
  | '<' :: '/' :: cs =>
      match afterWord? name cs with
      | some (c :: rest) => if isTagBlank c || c = '/' || c = '>' then some (c :: rest) else none
      | _ => none
  | _ => none

/-- The text up to the end tag of a name, and the rest from that end tag on. `done` holds
what was passed, reversed. -/
def splitAtEndTag (name : List Char) (done : List Char) : List Char → List Char × List Char
  | [] => (done.reverse, [])
  | c :: cs =>
      if (afterEndTagName? name (c :: cs)).isSome then (done.reverse, c :: cs)
      else splitAtEndTag name (c :: done) cs

/-- Where the reading of a script stands. -/
inductive ScriptState where
  /-- In the script. -/
  | plain
  /-- In a comment, after so many hyphens in a row. -/
  | comment (hyphens : Nat)
  /-- In a script in a comment, after so many hyphens in a row. -/
  | nested (hyphens : Nat)
  deriving DecidableEq, Repr

/-- Whether a text begins with a word whose name ends there. -/
def startsTag (word : String) (cs : List Char) : Bool :=
  match afterWord? word.toList cs with
  | some (c :: _) => isTagBlank c || c = '/' || c = '>'
  | _ => false

/-- The state after a character, where `cs` is the text from that character on. -/
def ScriptState.next (state : ScriptState) (c : Char) (cs : List Char) : ScriptState :=
  match state with
  | .plain => if (afterWord? "<!--".toList cs).isSome then .comment 0 else .plain
  | .comment hyphens =>
      if c = '-' then .comment (hyphens + 1)
      else if c = '>' ∧ 2 ≤ hyphens then .plain
      else if startsTag "<script" cs then .nested 0
      else .comment 0
  | .nested hyphens =>
      if c = '-' then .nested (hyphens + 1)
      else if c = '>' ∧ 2 ≤ hyphens then .plain
      else if startsTag "</script" cs then .comment 0
      else .nested 0

/-- The text of a script up to its end tag, and the rest from that end tag on. An end tag
inside a script in a comment does not count. -/
def splitScript (done : List Char) : ScriptState → List Char → List Char × List Char
  | _, [] => (done.reverse, [])
  | state, c :: cs =>
      let ends := match state with
        | .nested _ => false
        | _ => (afterEndTagName? "script".toList (c :: cs)).isSome
      if ends then (done.reverse, c :: cs)
      else splitScript (c :: done) (state.next c (c :: cs)) cs

/-! ### The tokens at hand -/

/-- Tokens and the text after them. -/
structure Lexed where
  /-- The tokens. -/
  tokens : List Token
  /-- The text after them. -/
  rest : List Char

/-- An end tag, read from its name on. -/
def lexEndTag (cs : List Char) : Lexed :=
  match readTag? cs with
  | some (tag, rest) => ⟨[.endTag tag], rest⟩
  | none => ⟨[], []⟩

/-- A comment of any form. -/
def lexComment (read : List Char → String × List Char) (cs : List Char) : Lexed :=
  let (content, rest) := read cs
  ⟨[.comment content], rest⟩

/-- What `<!` begins: a comment, a document type declaration, or a verbatim section where
other vocabularies allow one. -/
def lexDeclaration (sections : Bool) (cs : List Char) : Lexed :=
  match cs with
  | '-' :: '-' :: rest => lexComment readComment rest
  | _ =>
      match afterWord? "doctype".toList cs with
      | some rest =>
          let (d, rest) := readDoctype rest
          ⟨[.doctype d], rest⟩
      | none =>
          match sections, cs with
          | true, '[' :: 'C' :: 'D' :: 'A' :: 'T' :: 'A' :: '[' :: rest =>
              let (content, rest) := readSection rest
              ⟨textTokens content, rest⟩
          | _, _ => lexComment readBogusComment cs

/-- What an opening angle bracket begins. -/
def lexBracket (sections : Bool) (cs : List Char) : Lexed :=
  match cs with
  | '!' :: rest => lexDeclaration sections rest
  | '?' :: _ => lexComment readBogusComment cs
  | '/' :: rest =>
      match rest with
      | [] => ⟨textTokens ['<', '/'], []⟩
      | '>' :: rest => ⟨[], rest⟩
      | c :: _ => if c.isAlpha then lexEndTag rest else lexComment readBogusComment rest
  | c :: _ =>
      if c.isAlpha then
        match readTag? cs with
        | some (tag, rest) => ⟨[.startTag tag], rest⟩
        | none => ⟨[], []⟩
      else ⟨textTokens ['<'], cs⟩
  | [] => ⟨textTokens ['<'], []⟩

/-- The tokens at the start of a text. -/
def lex (reading : Reading) (sections : Bool) (cs : List Char) : Lexed :=
  let upTo := fun (name : String) (resolve : List Char → List Char)
      (split : List Char → List Char × List Char) =>
    match afterEndTagName? name.toList cs with
    | some _ => lexEndTag (cs.drop 2)
    | none =>
        let (text, rest) := split cs
        ⟨textTokens (resolve (text.map shown)), rest⟩
  match reading with
  | .markup =>
      match cs with
      | '<' :: rest => lexBracket sections rest
      | _ =>
          let text := cs.takeWhile (· != '<')
          ⟨textTokens (resolveReferences false text), cs.drop text.length⟩
  | .escapable name => upTo name (resolveReferences false) (splitAtEndTag name.toList [])
  | .verbatim name => upTo name id (splitAtEndTag name.toList [])
  | .script => upTo "script" id (splitScript [] .plain)
  | .plain => ⟨textTokens (cs.map shown), []⟩

/-! ### Turns -/

/-- Line ends are read as newlines. `done` holds the result so far, reversed. -/
def joinLineEnds (done : List Char) : List Char → List Char
  | [] => done.reverse
  | '\r' :: '\n' :: cs => joinLineEnds ('\n' :: done) cs
  | '\r' :: cs => joinLineEnds ('\n' :: done) cs
  | c :: cs => joinLineEnds (c :: done) cs

/-- The characters of a source, without a byte order mark, and with newlines at the ends of
lines. -/
def sourceChars (source : String) : List Char :=
  joinLineEnds [] (match source.toList with
    | '\ufeff' :: cs => cs
    | cs => cs)

/-- Reads a text to its end. Each turn passes a character, which bounds `fuel`. -/
def Builder.readFrom : (fuel : Nat) → Builder → List Char → Builder
  | 0, b, _ => b
  | _ + 1, b, [] => b.feed .eof
  | fuel + 1, b, cs =>
      let lexed := lex b.reading b.inForeignElement cs
      Builder.readFrom fuel (lexed.tokens.foldl Builder.feed b) lexed.rest

/-- Reads a source from a given state on. -/
def Builder.read (b : Builder) (source : String) : List Node :=
  let cs := sourceChars source
  (Builder.readFrom (cs.length + 1) b cs).draft.finish

end Harvest.Html
