import Harvest.Html.Reference

/-!
# Tokens of Markup

Markup is read as tags, comments, declarations and runs of text. This module holds the
tokens and reads those that begin with an angle bracket, one function for each: a tag from
its name on, a comment, a bogus comment, a document type declaration, and a section of
verbatim text. Each is a machine over the characters, so it ends with its text.

Text is cut into runs of one kind, since blanks, null characters and all other characters
are treated apart when the tree is built.
-/

namespace Harvest.Html

/-- A tag. -/
structure Tag where
  /-- The name, in lower case. -/
  name : String
  /-- The attributes with their values, each name once. -/
  attributes : List (String × String)
  /-- Whether a slash stands before the closing bracket. -/
  selfClosing : Bool
  deriving DecidableEq, Repr

/-- A document type declaration. -/
structure Doctype where
  /-- The name. -/
  name : Option String
  /-- The public identifier. -/
  publicId : Option String
  /-- The system identifier. -/
  systemId : Option String
  /-- Whether the declaration is malformed. -/
  malformed : Bool
  deriving DecidableEq, Repr

/-- A token of markup. -/
inductive Token where
  /-- A start tag. -/
  | startTag (tag : Tag)
  /-- An end tag. -/
  | endTag (tag : Tag)
  /-- A run of blanks. -/
  | blanks (run : List Char)
  /-- A run of characters that are neither blanks nor null characters. -/
  | text (run : List Char)
  /-- A null character. -/
  | null
  /-- A comment. -/
  | comment (content : String)
  /-- A document type declaration. -/
  | doctype (declaration : Doctype)
  /-- The end of the document. -/
  | eof
  deriving Repr

/-- The blanks between the parts of a tag. -/
def isTagBlank (c : Char) : Bool :=
  c = ' ' || c = '\t' || c = '\n' || c = '\x0c'

/-- The blanks of a text. -/
def isTextBlank (c : Char) : Bool :=
  isTagBlank c || c = '\r'

/-- A null character is shown as the replacement character where it is not dropped. -/
def shown (c : Char) : Char :=
  if c = '\x00' then replacementChar else c

/-- The characters up to the first that satisfies `p`, and those after it, if there is one. -/
def splitAtFirst (p : Char → Bool) (cs : List Char) : List Char × Option (List Char) :=
  match cs.dropWhile fun c => !p c with
  | [] => (cs, none)
  | _ :: rest => (cs.takeWhile fun c => !p c, some rest)

/-- The rest of a text after a word, which is compared without regard to case. -/
def afterWord? : (word : List Char) → List Char → Option (List Char)
  | [], cs => some cs
  | _ :: _, [] => none
  | w :: word, c :: cs => if w = c.toLower then afterWord? word cs else none

/-! ### Runs of text -/

/-- The three kinds of characters in a text. -/
inductive CharKind where
  /-- A blank. -/
  | blank
  /-- A null character. -/
  | null
  /-- Any other character. -/
  | plain
  deriving DecidableEq, Repr

/-- The kind of a character. -/
def CharKind.of (c : Char) : CharKind :=
  if isTextBlank c then .blank else if c = '\x00' then .null else .plain

/-- The tokens of a run of characters of one kind. -/
def runTokens (run : List Char) : List Token :=
  match run with
  | [] => []
  | c :: _ =>
      match CharKind.of c with
      | .blank => [.blanks run]
      | .plain => [.text run]
      | .null => run.map fun _ => .null

/-- The tokens of a text. -/
def textTokens (cs : List Char) : List Token :=
  (cs.splitBy fun a b => CharKind.of a = CharKind.of b).flatMap runTokens

/-! ### Tags -/

/-- Where the reading of a tag stands. -/
inductive TagState where
  /-- In the name. -/
  | name
  /-- Before an attribute. -/
  | beforeAttribute
  /-- In the name of an attribute. -/
  | attributeName
  /-- After the name of an attribute. -/
  | afterAttributeName
  /-- After an equals sign. -/
  | beforeValue
  /-- In a value between quotes. -/
  | quotedValue (quote : Char)
  /-- In a value without quotes. -/
  | plainValue
  /-- After a closing quote. -/
  | afterQuoted
  /-- After a slash. -/
  | slash
  deriving DecidableEq, Repr

/-- What has been read of a tag; texts are reversed and the latest attribute comes first. -/
structure TagDraft where
  /-- The name. -/
  name : List Char
  /-- The finished attributes. -/
  attributes : List (String × String)
  /-- The attribute being read, its name and its value. -/
  current : Option (List Char × List Char)

namespace TagDraft

/-- Finishes the attribute being read. Of two attributes of one name the first counts. -/
def finishAttribute (d : TagDraft) : TagDraft :=
  match d.current with
  | none => d
  | some (name, value) =>
      let name := String.ofList name.reverse
      if (d.attributes.lookup name).isSome then { d with current := none }
      else
        let value := String.ofList (resolveReferences true value.reverse)
        { d with attributes := (name, value) :: d.attributes, current := none }

/-- Begins an attribute with the first character of its name. -/
def startAttribute (d : TagDraft) (c : Char) : TagDraft :=
  { d.finishAttribute with current := some ([shown c.toLower], []) }

/-- Adds a character to the name of the attribute being read. -/
def pushName (d : TagDraft) (c : Char) : TagDraft :=
  { d with current := d.current.map fun (name, value) => (shown c.toLower :: name, value) }

/-- Adds a character to the value of the attribute being read. -/
def pushValue (d : TagDraft) (c : Char) : TagDraft :=
  { d with current := d.current.map fun (name, value) => (name, shown c :: value) }

/-- The finished tag. -/
def finish (d : TagDraft) (selfClosing : Bool) : Tag :=
  let d := d.finishAttribute
  ⟨String.ofList d.name.reverse, d.attributes.reverse, selfClosing⟩

end TagDraft

/-- How a tag goes on after a character: it is finished, or it continues in a state. -/
inductive TagStep where
  /-- The tag ends here. -/
  | finished (tag : Tag)
  /-- The tag continues. -/
  | continues (state : TagState) (draft : TagDraft)

/-- The step that is common to all places where an attribute, a slash or the end of the tag
may follow; `other` is the step for every other character. -/
def TagDraft.between (d : TagDraft) (c : Char) (other : TagStep) : TagStep :=
  if isTagBlank c then .continues .beforeAttribute d
  else if c = '/' then .continues .slash d
  else if c = '>' then .finished (d.finish false)
  else other

/-- One character of a tag. -/
def TagDraft.step (d : TagDraft) (c : Char) : TagState → TagStep
  | .name => d.between c (.continues .name { d with name := shown c.toLower :: d.name })
  | .beforeAttribute => d.between c (.continues .attributeName (d.startAttribute c))
  | .attributeName =>
      if isTagBlank c then .continues .afterAttributeName d
      else if c = '=' then .continues .beforeValue d
      else d.between c (.continues .attributeName (d.pushName c))
  | .afterAttributeName =>
      if isTagBlank c then .continues .afterAttributeName d
      else if c = '=' then .continues .beforeValue d
      else d.between c (.continues .attributeName (d.startAttribute c))
  | .beforeValue =>
      if isTagBlank c then .continues .beforeValue d
      else if c = '"' || c = '\'' then .continues (.quotedValue c) d
      else if c = '>' then .finished (d.finish false)
      else .continues .plainValue (d.pushValue c)
  | .quotedValue quote =>
      if c = quote then .continues .afterQuoted d
      else .continues (.quotedValue quote) (d.pushValue c)
  | .plainValue =>
      if isTagBlank c then .continues .beforeAttribute d
      else if c = '>' then .finished (d.finish false)
      else .continues .plainValue (d.pushValue c)
  | .afterQuoted => d.between c (.continues .attributeName (d.startAttribute c))
  | .slash =>
      if c = '>' then .finished (d.finish true)
      else d.between c (.continues .attributeName (d.startAttribute c))

/-- Reads a tag to its end. A tag that is cut off by the end of the document is dropped. -/
def readTagFrom : TagState → TagDraft → List Char → Option (Tag × List Char)
  | _, _, [] => none
  | state, d, c :: cs =>
      match d.step c state with
      | .finished tag => some (tag, cs)
      | .continues state d => readTagFrom state d cs

/-- Reads a tag from its name on. -/
def readTag? (cs : List Char) : Option (Tag × List Char) :=
  readTagFrom .name ⟨[], [], none⟩ cs

/-! ### Comments -/

/-- Where the reading of a comment stands. -/
inductive CommentState where
  /-- At the start. -/
  | start
  /-- After a hyphen at the start. -/
  | startDash
  /-- In the content. -/
  | body
  /-- After a hyphen. -/
  | dash
  /-- After two hyphens. -/
  | dashes
  /-- After two hyphens and an exclamation mark. -/
  | bang
  deriving DecidableEq, Repr

/-- The characters that a state holds back from the content, reversed. -/
def CommentState.held : CommentState → List Char
  | .start => []
  | .startDash => ['-']
  | .body => []
  | .dash => ['-']
  | .dashes => ['-', '-']
  | .bang => ['!', '-', '-']

/-- Reads a comment after its opening. `content` holds what was read, reversed. -/
def readCommentFrom : CommentState → (content : List Char) → List Char →
    String × List Char
  | _, content, [] => (String.ofList content.reverse, [])
  | state, content, c :: cs =>
      let ended := (String.ofList content.reverse, cs)
      let resumed := shown c :: (state.held ++ content)
      match state with
      | .start =>
          if c = '-' then readCommentFrom .startDash content cs
          else if c = '>' then ended
          else readCommentFrom .body resumed cs
      | .startDash =>
          if c = '-' then readCommentFrom .dashes content cs
          else if c = '>' then ended
          else readCommentFrom .body resumed cs
      | .body =>
          if c = '-' then readCommentFrom .dash content cs
          else readCommentFrom .body resumed cs
      | .dash =>
          if c = '-' then readCommentFrom .dashes content cs
          else readCommentFrom .body resumed cs
      | .dashes =>
          if c = '>' then ended
          else if c = '!' then readCommentFrom .bang content cs
          else if c = '-' then readCommentFrom .dashes ('-' :: content) cs
          else readCommentFrom .body resumed cs
      | .bang =>
          if c = '-' then readCommentFrom .dash (state.held ++ content) cs
          else if c = '>' then ended
          else readCommentFrom .body resumed cs

/-- Reads a comment after its opening. -/
def readComment (cs : List Char) : String × List Char :=
  readCommentFrom .start [] cs

/-- Reads what is taken for a comment up to the next closing bracket. -/
def readBogusComment (cs : List Char) : String × List Char :=
  let (content, rest) := splitAtFirst (· = '>') cs
  (String.ofList (content.map shown), rest.getD [])

/-! ### Document type declarations -/

/-- Skips to the end of a declaration. -/
def afterBracket (cs : List Char) : List Char :=
  (splitAtFirst (· = '>') cs).2.getD []

/-- What may follow a document type's name. -/
inductive IdentifierKind where
  /-- A public identifier. -/
  | publicId
  /-- A system identifier. -/
  | systemId
  deriving DecidableEq, Repr

/-- Stores an identifier. -/
def Doctype.withIdentifier (d : Doctype) (kind : IdentifierKind) (text : List Char) : Doctype :=
  let text := some (String.ofList (text.map shown))
  match kind with
  | .publicId => { d with publicId := text }
  | .systemId => { d with systemId := text }

/-- Reads a quoted identifier. The result is the declaration so far with the rest, and
whether the declaration ended in the identifier. -/
def readIdentifier (d : Doctype) (kind : IdentifierKind) (quote : Char) (cs : List Char) :
    Doctype × List Char × Bool :=
  match splitAtFirst (fun c => c = quote || c = '>') cs with
  | (text, none) => ({ d.withIdentifier kind text with malformed := true }, [], true)
  | (text, some rest) =>
      let closed := (cs.drop text.length).head? = some quote
      let d := d.withIdentifier kind text
      if closed then (d, rest, false) else ({ d with malformed := true }, rest, true)

/-- Reads the end of a declaration after its system identifier. -/
def readDoctypeEnd (d : Doctype) (cs : List Char) : Doctype × List Char :=
  match cs.dropWhile isTagBlank with
  | [] => ({ d with malformed := true }, [])
  | _ => (d, afterBracket cs)

/-- Reads a system identifier, if one follows, and the end of the declaration. -/
def readSystem (d : Doctype) (needed : Bool) (cs : List Char) : Doctype × List Char :=
  match cs.dropWhile isTagBlank with
  | [] => ({ d with malformed := true }, [])
  | c :: rest =>
      if c = '"' || c = '\'' then
        match readIdentifier d .systemId c rest with
        | (d, rest, true) => (d, rest)
        | (d, rest, false) => readDoctypeEnd d rest
      else if c = '>' then ({ d with malformed := d.malformed || needed }, rest)
      else ({ d with malformed := true }, afterBracket rest)

/-- Reads a public identifier and what follows it. -/
def readPublic (d : Doctype) (cs : List Char) : Doctype × List Char :=
  match cs.dropWhile isTagBlank with
  | [] => ({ d with malformed := true }, [])
  | c :: rest =>
      if c = '"' || c = '\'' then
        match readIdentifier d .publicId c rest with
        | (d, rest, true) => (d, rest)
        | (d, rest, false) => readSystem d false rest
      else if c = '>' then ({ d with malformed := true }, rest)
      else ({ d with malformed := true }, afterBracket rest)

/-- Reads a document type declaration after its keyword. -/
def readDoctype (cs : List Char) : Doctype × List Char :=
  let empty : Doctype := ⟨none, none, none, false⟩
  match cs.dropWhile isTagBlank with
  | [] => ({ empty with malformed := true }, [])
  | '>' :: rest => ({ empty with malformed := true }, rest)
  | cs =>
      let isEnd := fun c => isTagBlank c || c = '>'
      let name := cs.takeWhile fun c => !isEnd c
      let named := { empty with name := some (String.ofList (name.map fun c => shown c.toLower)) }
      match (cs.drop name.length).dropWhile isTagBlank with
      | [] => ({ named with malformed := true }, [])
      | '>' :: rest => (named, rest)
      | rest =>
          match afterWord? "public".toList rest, afterWord? "system".toList rest with
          | some rest, _ => readPublic named rest
          | none, some rest => readSystem named true rest
          | none, none => ({ named with malformed := true }, afterBracket rest)

/-! ### Verbatim sections -/

/-- The text of a verbatim section up to `]]>`, and the rest after it. `content` holds what
was read, reversed. -/
def readSectionFrom (content : List Char) : List Char → List Char × List Char
  | [] => (content.reverse, [])
  | ']' :: ']' :: '>' :: cs => (content.reverse, cs)
  | c :: cs => readSectionFrom (c :: content) cs

/-- Reads a verbatim section after its opening. -/
def readSection (cs : List Char) : List Char × List Char :=
  readSectionFrom [] cs

end Harvest.Html
