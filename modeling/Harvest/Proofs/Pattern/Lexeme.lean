import Mathlib.Data.List.TakeWhile
import Harvest.Pattern.Scanner

/-!
# The Grammar of Lexemes

Which texts are lexemes is said here without reading them: each mode has a few classes of
texts, and a lexeme that stands at the start of a rest of the source is the *longest* one if
no other lexeme of its mode that stands there has more characters. The functions that read
lexemes find the longest one, and they find one unless there is none.

In line mode every character starts a lexeme or is blank. In capture mode a newline starts
none, and an equals sign starts one only if a slash follows it and another slash, not
escaped, comes later.

## Main results

* `IsLongest.unique`: there is one longest lexeme at most.
* `lineLexeme?_spec`, `captureLexeme?_spec`: what reading a lexeme gives.
* `NoLexeme.not_isLexeme`: where no lexeme is read, there is none.
-/

namespace Harvest.Pattern

/-! ### Classes of lexemes -/

/-- The lexemes of line mode, each with its token. -/
inductive LineLexeme : List Char → Token → Prop
  /-- Tabs. -/
  | indent {tabs : List Char} (h : ∀ d ∈ tabs, d = '\t') :
      LineLexeme ('\t' :: tabs) (.indent (tabs.length + 1))
  /-- A newline with blanks and newlines after it. -/
  | lineBreak {blanks : List Char} (h : ∀ d ∈ blanks, d ∈ [' ', '\r', '\n']) :
      LineLexeme ('\n' :: blanks) .lineBreak
  /-- A question mark. -/
  | questionMark : LineLexeme ['?'] .questionMark
  /-- An opening bracket. -/
  | leftBracket : LineLexeme ['('] .leftBracket
  /-- A closing bracket. -/
  | rightBracket : LineLexeme [')'] .rightBracket
  /-- A bare word, which does not begin with a bracket or a question mark. -/
  | selector {c : Char} {cs : List Char} (hc : c ∉ [' ', '\t', '\r', '\n', '(', ')', '?'])
      (hcs : ∀ d ∈ cs, d ∉ [' ', '\t', '\r', '\n']) :
      LineLexeme (c :: cs) (.selector (String.ofList (c :: cs)))

/-- The texts that stand between the slashes of a literal, each with what it stands for. No
slash is in them, unless a backslash escapes it. -/
inductive Unescapes : List Char → List Char → Prop
  /-- The empty text. -/
  | nil : Unescapes [] []
  /-- A character that stands for itself. -/
  | plain {c : Char} {body value : List Char} (hc : c ∉ ['/', '\\'])
      (h : Unescapes body value) : Unescapes (c :: body) (c :: value)
  /-- A backslash and the character that it escapes. -/
  | escape {c : Char} {body value : List Char} (h : Unescapes body value) :
      Unescapes ('\\' :: c :: body) (unescape c ++ value)

/-- The lexemes of capture mode, each with its token. -/
inductive CaptureLexeme : List Char → Token → Prop
  /-- A question mark. -/
  | questionMark : CaptureLexeme ['?'] .questionMark
  /-- An opening bracket. -/
  | leftBracket : CaptureLexeme ['('] .leftBracket
  /-- A closing bracket. -/
  | rightBracket : CaptureLexeme [')'] .rightBracket
  /-- A regular expression literal. -/
  | regexp {body value : List Char} (h : Unescapes body value) :
      CaptureLexeme ('=' :: '/' :: (body ++ ['/'])) (.regexp (String.ofList value))
  /-- A bare word, in which no bracket and no equals sign stands. -/
  | identifier {c : Char} {cs : List Char}
      (hc : c ∉ [' ', '\t', '\r', '\n', '(', ')', '=', '?'])
      (hcs : ∀ d ∈ cs, d ∉ [' ', '\t', '\r', '\n', '(', ')', '=']) :
      CaptureLexeme (c :: cs) (.identifier (String.ofList (c :: cs)))

/-- The lexemes of a mode, each with its token. -/
def IsLexeme : Mode → List Char → Token → Prop
  | .line => LineLexeme
  | .capture => CaptureLexeme
  | .done => fun _ _ => False

/-- The characters that are skipped between the lexemes of a mode. -/
def IsBlank : Mode → Char → Prop
  | .capture, c => c ∈ [' ', '\r', '\t']
  | _, c => c ∈ [' ', '\r']

/-- A lexeme is the longest one at the start of a text. -/
structure IsLongest (mode : Mode) (cs : List Char) (l : Lexeme) : Prop where
  /-- It stands there. -/
  append_eq : l.text ++ l.rest = cs
  /-- It is a lexeme of the mode. -/
  isLexeme : IsLexeme mode l.text l.token
  /-- Every other lexeme that stands there is no longer. -/
  length_le : ∀ text token rest, text ++ rest = cs → IsLexeme mode text token →
    text.length ≤ l.text.length

/-- Why no lexeme of capture mode stands at the start of a text. -/
inductive NoLexeme : List Char → ScanFault → Prop
  /-- The line ends. -/
  | newline (cs : List Char) : NoLexeme ('\n' :: cs) .unclosedCapture
  /-- No slash follows an equals sign. -/
  | equals {cs : List Char} (h : cs.head? ≠ some '/') : NoLexeme ('=' :: cs) .expectedSlash
  /-- A literal has no closing slash. -/
  | openLiteral {cs : List Char}
      (h : ∀ body value rest, Unescapes body value → body ++ '/' :: rest ≠ cs) :
      NoLexeme ('=' :: '/' :: cs) .unterminatedRegex

/-! ### The text of a literal -/

/-- A literal has one end at most: its first slash that is not escaped. -/
theorem Unescapes.unique {body value rest : List Char} (h : Unescapes body value)
    {body' value' rest' : List Char} (h' : Unescapes body' value')
    (heq : body ++ '/' :: rest = body' ++ '/' :: rest') :
    body = body' ∧ value = value' ∧ rest = rest' := by
  induction h generalizing body' value' with
  | nil =>
      cases h' with
      | nil => exact ⟨rfl, rfl, (List.cons.inj heq).2⟩
      | plain hc _ =>
          obtain ⟨rfl, -⟩ := List.cons.inj heq
          simp at hc
      | escape _ => exact absurd (List.cons.inj heq).1 (by decide)
  | plain hc _ ih =>
      cases h' with
      | nil =>
          obtain ⟨rfl, -⟩ := List.cons.inj heq
          simp at hc
      | plain _ h' =>
          obtain ⟨rfl, htail⟩ := List.cons.inj heq
          obtain ⟨rfl, rfl, rfl⟩ := ih h' htail
          exact ⟨rfl, rfl, rfl⟩
      | escape _ =>
          obtain ⟨rfl, -⟩ := List.cons.inj heq
          simp at hc
  | escape _ ih =>
      cases h' with
      | nil => exact absurd (List.cons.inj heq).1 (by decide)
      | plain hc _ =>
          obtain ⟨rfl, -⟩ := List.cons.inj heq
          simp at hc
      | escape h' =>
          obtain ⟨rfl, htail⟩ := List.cons.inj (List.cons.inj heq).2
          obtain ⟨rfl, rfl, rfl⟩ := ih h' htail
          exact ⟨rfl, rfl, rfl⟩

/-- Reading the body of a literal finds its end. -/
theorem literalBodyFrom_of_unescapes {body v : List Char} (h : Unescapes body v)
    (value text rest : List Char) :
    literalBodyFrom value text (body ++ '/' :: rest) =
      some ⟨value.reverse ++ v, text.reverse ++ (body ++ ['/']), rest⟩ := by
  induction h generalizing value text with
  | nil => rw [List.nil_append, literalBodyFrom]; simp
  | @plain c body v hc _ ih =>
      simp only [List.mem_cons, List.not_mem_nil, or_false, not_or] at hc
      rw [List.cons_append,
        literalBodyFrom.eq_5 _ _ _ _ hc.1 (fun h _ => hc.2 h) (fun _ _ h _ => hc.2 h), ih]
      simp
  | escape _ ih =>
      rw [List.cons_append, List.cons_append, literalBodyFrom, ih]
      simp

/-- What reading finds is the body of a literal. -/
theorem exists_unescapes_of_literalBodyFrom {value text cs : List Char} {b : LiteralBody}
    (h : literalBodyFrom value text cs = some b) :
    ∃ body v rest, Unescapes body v ∧ body ++ '/' :: rest = cs := by
  fun_induction literalBodyFrom value text cs with
  | case1 => cases h
  | case2 value text cs => exact ⟨[], [], cs, .nil, rfl⟩
  | case3 => cases h
  | case4 value text c cs ih =>
      obtain ⟨body, v, rest, hbody, heq⟩ := ih h
      exact ⟨'\\' :: c :: body, unescape c ++ v, rest, .escape hbody, by rw [← heq]; rfl⟩
  | case5 value text c cs hslash hend hescape ih =>
      obtain ⟨body, v, rest, hbody, heq⟩ := ih h
      have hc : c ∉ ['/', '\\'] := by
        simp only [List.mem_cons, List.not_mem_nil, or_false, not_or]
        refine ⟨hslash, fun hback => ?_⟩
        cases cs with
        | nil => exact hend hback rfl
        | cons d cs => exact hescape d cs hback rfl
      exact ⟨c :: body, c :: v, rest, .plain hc hbody, by rw [← heq]; rfl⟩

/-- **Literals.** Reading a body gives its value, its text and the source after it, or
nothing if no slash ends it. -/
theorem literalBody?_spec (cs : List Char) :
    match literalBody? cs with
    | some b => ∃ body, Unescapes body b.value ∧ b.text = body ++ ['/'] ∧
        body ++ '/' :: b.rest = cs
    | none => ∀ body value rest, Unescapes body value → body ++ '/' :: rest ≠ cs := by
  cases hread : literalBody? cs with
  | none =>
      rintro body value rest h rfl
      rw [literalBody?, literalBodyFrom_of_unescapes h] at hread
      cases hread
  | some b =>
      obtain ⟨body, v, rest, hbody, rfl⟩ := exists_unescapes_of_literalBodyFrom hread
      rw [literalBody?, literalBodyFrom_of_unescapes hbody] at hread
      cases hread
      exact ⟨body, hbody, rfl, rfl⟩

/-! ### Lexemes and the characters they go on with -/

/-- The characters that go on with a lexeme of line mode that begins with `c`. -/
def lineTail (c : Char) : Char → Bool :=
  if c = '\t' then (· == '\t')
  else if c = '\n' then isBreakBlank
  else if c = '?' ∨ c = '(' ∨ c = ')' then fun _ => false
  else isSelectorChar

/-- The characters that go on with a lexeme of capture mode that begins with `c` and is not
a literal. -/
def captureTail (c : Char) : Char → Bool :=
  if c = '?' ∨ c = '(' ∨ c = ')' then fun _ => false else isIdentifierChar

theorem LineLexeme.tail {c : Char} {t : List Char} {token : Token}
    (h : LineLexeme (c :: t) token) : ∀ d ∈ t, lineTail c d = true := by
  generalize htext : c :: t = text at h
  cases h with
  | indent htabs =>
      obtain ⟨rfl, rfl⟩ := List.cons.inj htext
      simpa [lineTail] using htabs
  | lineBreak hblanks =>
      obtain ⟨rfl, rfl⟩ := List.cons.inj htext
      simpa [lineTail, isBreakBlank, or_assoc] using hblanks
  | questionMark | leftBracket | rightBracket =>
      obtain ⟨-, rfl⟩ := List.cons.inj htext
      exact List.forall_mem_nil _
  | selector hc hcs =>
      obtain ⟨rfl, rfl⟩ := List.cons.inj htext
      simp only [List.mem_cons, List.not_mem_nil, or_false, not_or] at hc hcs
      simpa [lineTail, isSelectorChar, isSpacing, hc, and_assoc] using hcs

theorem CaptureLexeme.tail {c : Char} {t : List Char} {token : Token} (hne : c ≠ '=')
    (h : CaptureLexeme (c :: t) token) : ∀ d ∈ t, captureTail c d = true := by
  generalize htext : c :: t = text at h
  cases h with
  | questionMark | leftBracket | rightBracket =>
      obtain ⟨-, rfl⟩ := List.cons.inj htext
      exact List.forall_mem_nil _
  | regexp _ => exact absurd (List.cons.inj htext).1 hne
  | identifier hc hcs =>
      obtain ⟨rfl, rfl⟩ := List.cons.inj htext
      simp only [List.mem_cons, List.not_mem_nil, or_false, not_or] at hc hcs
      simpa [captureTail, isIdentifierChar, isSpacing, hc, and_assoc] using hcs

/-- The lexeme that goes on as long as it can is the longest one. -/
theorem isLongest_of_tail {mode : Mode} {c : Char} {cs : List Char} {token : Token}
    {p : Char → Bool} (hlexeme : IsLexeme mode (c :: cs.takeWhile p) token)
    (htail : ∀ t token, IsLexeme mode (c :: t) token → ∀ d ∈ t, p d = true) :
    IsLongest mode (c :: cs) ⟨token, c :: cs.takeWhile p, cs.dropWhile p⟩ where
  append_eq := by rw [List.cons_append, List.takeWhile_append_dropWhile]
  isLexeme := hlexeme
  length_le := by
    intro text token' rest heq htext
    cases text with
    | nil => exact Nat.zero_le _
    | cons c' t =>
        rw [List.cons_append] at heq
        obtain ⟨rfl, rfl⟩ := List.cons.inj heq
        rw [List.takeWhile_append_of_pos (htail t token' htext)]
        simp only [List.length_cons, List.length_append]
        omega

/-- A lexeme that nothing can go on with is the longest one. -/
theorem isLongest_singleton (mode : Mode) {c : Char} {token : Token}
    (hlexeme : IsLexeme mode [c] token)
    (htail : ∀ t token, IsLexeme mode (c :: t) token → t = []) (cs : List Char) :
    IsLongest mode (c :: cs) ⟨token, [c], cs⟩ where
  append_eq := rfl
  isLexeme := hlexeme
  length_le := by
    intro text token' rest heq htext
    cases text with
    | nil => exact Nat.zero_le _
    | cons c' t =>
        obtain ⟨rfl, -⟩ := List.cons.inj heq
        obtain rfl := htail t token' htext
        exact Nat.le_refl _

/-! ### Lexemes are told by their texts -/

/-- A lexeme begins with a character that is not blank. -/
theorem IsLexeme.exists_cons {mode : Mode} {text : List Char} {token : Token}
    (h : IsLexeme mode text token) : ∃ c t, text = c :: t ∧ ¬ IsBlank mode c := by
  cases mode with
  | line =>
      cases h with
      | selector hc hcs => exact ⟨_, _, rfl, by simp_all [IsBlank]⟩
      | _ => exact ⟨_, _, rfl, by simp [IsBlank]⟩
  | capture =>
      cases h with
      | identifier hc hcs => exact ⟨_, _, rfl, by simp_all [IsBlank]⟩
      | _ => exact ⟨_, _, rfl, by simp [IsBlank]⟩
  | done => exact h.elim

/-- All of a text goes on with its first character, and nothing is left. -/
theorem Lexeme.run_eq {p : Char → Bool} {c : Char} {cs : List Char}
    (h : ∀ d ∈ cs, p d = true) (token : List Char → Token) :
    Lexeme.run p token c cs = ⟨token (c :: cs), c :: cs, []⟩ := by
  rw [Lexeme.run, List.takeWhile_eq_self_iff.2 h, List.dropWhile_eq_nil_iff.2 h]

/-- A lexeme of line mode is read as what it is. -/
theorem LineLexeme.lineLexeme?_eq {text : List Char} {token : Token}
    (h : LineLexeme text token) : lineLexeme? text = some ⟨token, text, []⟩ := by
  cases h with
  | indent htabs =>
      rw [lineLexeme?, if_pos rfl, Lexeme.run_eq (by simpa using htabs), List.length_cons]
  | lineBreak hblanks =>
      rw [lineLexeme?, if_neg (by decide), if_pos rfl,
        Lexeme.run_eq (by simpa [isBreakBlank, or_assoc] using hblanks)]
  | questionMark | leftBracket | rightBracket => rfl
  | selector hc hcs =>
      simp only [List.mem_cons, List.not_mem_nil, or_false, not_or] at hc hcs
      rw [lineLexeme?, if_neg hc.2.1, if_neg hc.2.2.2.1, if_neg hc.2.2.2.2.2.2,
        if_neg hc.2.2.2.2.1, if_neg hc.2.2.2.2.2.1,
        Lexeme.run_eq (by simpa [isSelectorChar, isSpacing, and_assoc] using hcs)]

/-- A lexeme of capture mode is read as what it is. -/
theorem CaptureLexeme.captureLexeme?_eq {text : List Char} {token : Token}
    (h : CaptureLexeme text token) : captureLexeme? text = .ok (some ⟨token, text, []⟩) := by
  cases h with
  | questionMark | leftBracket | rightBracket => rfl
  | regexp hbody =>
      rw [captureLexeme?, if_neg (by decide), if_neg (by decide), if_neg (by decide),
        if_neg (by decide), if_pos rfl, literalBody?, literalBodyFrom_of_unescapes hbody]
      rfl
  | identifier hc hcs =>
      simp only [List.mem_cons, List.not_mem_nil, or_false, not_or] at hc hcs
      unfold captureLexeme?
      dsimp only
      rw [if_neg hc.2.2.2.2.2.2.2, if_neg hc.2.2.2.2.1, if_neg hc.2.2.2.2.2.1,
        if_neg hc.2.2.2.1, if_neg hc.2.2.2.2.2.2.1,
        Lexeme.run_eq (by simpa [isIdentifierChar, isSpacing, and_assoc] using hcs)]

/-- A text is a lexeme of one token at most. -/
theorem IsLexeme.token_unique {mode : Mode} {text : List Char} {token token' : Token}
    (h : IsLexeme mode text token) (h' : IsLexeme mode text token') : token = token' := by
  cases mode with
  | line =>
      have heq := h.lineLexeme?_eq.symm.trans h'.lineLexeme?_eq
      simpa using heq
  | capture =>
      have heq := h.captureLexeme?_eq.symm.trans h'.captureLexeme?_eq
      simpa using heq
  | done => exact h.elim

/-- **There is one longest lexeme at most.** -/
theorem IsLongest.unique {mode : Mode} {cs : List Char} {l l' : Lexeme}
    (h : IsLongest mode cs l) (h' : IsLongest mode cs l') : l = l' := by
  obtain ⟨token, text, rest⟩ := l
  obtain ⟨token', text', rest'⟩ := l'
  have hlength : text.length = text'.length :=
    Nat.le_antisymm (h'.length_le _ _ _ h.append_eq h.isLexeme)
      (h.length_le _ _ _ h'.append_eq h'.isLexeme)
  obtain ⟨rfl, rfl⟩ := List.append_inj (h.append_eq.trans h'.append_eq.symm) hlength
  obtain rfl := h.isLexeme.token_unique h'.isLexeme
  rfl

/-- Where no lexeme of capture mode is read, there is none. -/
theorem NoLexeme.not_isLexeme {cs : List Char} {fault : ScanFault} (h : NoLexeme cs fault)
    {text rest : List Char} {token : Token} (heq : text ++ rest = cs) :
    ¬ IsLexeme .capture text token := by
  intro hlexeme
  cases hlexeme with
  | questionMark | leftBracket | rightBracket => cases h <;> simp at heq
  | regexp hbody =>
      cases h with
      | newline => simp at heq
      | equals hslash =>
          obtain ⟨-, rfl⟩ := List.cons.inj heq
          exact hslash rfl
      | openLiteral hopen =>
          refine hopen _ _ rest hbody ?_
          simpa using heq
  | identifier hc hcs =>
      simp only [List.mem_cons, List.not_mem_nil, or_false, not_or] at hc
      cases h <;> simp_all

/-! ### Reading lexemes -/

/-- **Reading in line mode** gives the longest lexeme, and nothing only at the end. -/
theorem lineLexeme?_spec {cs : List Char} (h : ∀ c, cs.head? = some c → ¬ IsBlank .line c) :
    match lineLexeme? cs with
    | some l => IsLongest .line cs l
    | none => cs = [] := by
  cases cs with
  | nil => rfl
  | cons c cs =>
      have hblank : ¬ c = ' ' ∧ ¬ c = '\r' := by simpa [IsBlank] using h c rfl
      have hlongest : ∀ {token p}, lineTail c = p → LineLexeme (c :: cs.takeWhile p) token →
          IsLongest .line (c :: cs) ⟨token, c :: cs.takeWhile p, cs.dropWhile p⟩ :=
        fun hp hlexeme => isLongest_of_tail hlexeme fun t token ht => hp ▸ LineLexeme.tail ht
      have hsingle : ∀ {token}, c = '?' ∨ c = '(' ∨ c = ')' → LineLexeme [c] token →
          IsLongest .line (c :: cs) ⟨token, [c], cs⟩ := by
        intro token hc hlexeme
        have htail : lineTail c = fun _ => false := by rcases hc with rfl | rfl | rfl <;> rfl
        refine isLongest_singleton .line hlexeme (fun t _ ht => ?_) cs
        simpa [htail, List.eq_nil_iff_forall_not_mem] using LineLexeme.tail ht
      rw [lineLexeme?]
      by_cases htab : c = '\t'
      · subst htab
        exact hlongest rfl (.indent fun d hd => by simpa using List.mem_takeWhile_imp hd)
      rw [if_neg htab]
      by_cases hbreak : c = '\n'
      · subst hbreak
        exact hlongest rfl (.lineBreak fun d hd => by
          simpa [isBreakBlank, or_assoc] using List.mem_takeWhile_imp hd)
      rw [if_neg hbreak]
      by_cases hmark : c = '?'
      · subst hmark
        exact hsingle (.inl rfl) .questionMark
      rw [if_neg hmark]
      by_cases hleft : c = '('
      · subst hleft
        exact hsingle (.inr (.inl rfl)) .leftBracket
      rw [if_neg hleft]
      by_cases hright : c = ')'
      · subst hright
        exact hsingle (.inr (.inr rfl)) .rightBracket
      rw [if_neg hright]
      refine hlongest ?_ (.selector ?_ fun d hd => ?_)
      · simp [lineTail, htab, hbreak, hmark, hleft, hright]
      · simp [hblank, htab, hbreak, hmark, hleft, hright]
      · simpa [isSelectorChar, isSpacing, and_assoc] using List.mem_takeWhile_imp hd

/-- A literal that ends is the longest lexeme. -/
theorem isLongest_regexp {body value rest : List Char} (h : Unescapes body value) :
    IsLongest .capture ('=' :: '/' :: (body ++ '/' :: rest))
      ⟨.regexp (String.ofList value), '=' :: '/' :: (body ++ ['/']), rest⟩ where
  append_eq := by simp
  isLexeme := .regexp h
  length_le := by
    intro text token rest' heq hlexeme
    cases hlexeme with
    | questionMark | leftBracket | rightBracket => simp at heq
    | @regexp body' value' hbody =>
        have hbodies : body' ++ '/' :: rest' = body ++ '/' :: rest := by simpa using heq
        rw [(hbody.unique h hbodies).1]
    | identifier hc _ =>
        obtain ⟨rfl, -⟩ := List.cons.inj heq
        simp at hc

/-- After an equals sign there is a literal or a fault. -/
theorem captureLexeme?_equals_spec (cs : List Char) :
    match captureLexeme? ('=' :: cs) with
    | .ok l => ∃ l', l = some l' ∧ IsLongest .capture ('=' :: cs) l'
    | .error fault => NoLexeme ('=' :: cs) fault := by
  cases cs with
  | nil => exact .equals (by decide)
  | cons c body =>
      by_cases hslash : c = '/'
      · subst hslash
        have hbody := literalBody?_spec body
        rw [captureLexeme?, if_neg (by decide), if_neg (by decide), if_neg (by decide),
          if_neg (by decide), if_pos rfl]
        cases hread : literalBody? body with
        | none =>
            rw [hread] at hbody
            exact .openLiteral hbody
        | some b =>
            rw [hread] at hbody
            obtain ⟨text, htext, hb, rfl⟩ := hbody
            refine ⟨_, rfl, ?_⟩
            rw [hb]
            exact isLongest_regexp htext
      · rw [captureLexeme?, if_neg (by decide), if_neg (by decide), if_neg (by decide),
          if_neg (by decide), if_pos rfl]
        · exact .equals (by simpa using hslash)
        · exact fun body heq => hslash (List.cons.inj heq).1

/-- **Reading in capture mode** gives the longest lexeme, nothing at the end, and a fault
where there is no lexeme. -/
theorem captureLexeme?_spec {cs : List Char}
    (h : ∀ c, cs.head? = some c → ¬ IsBlank .capture c) :
    match captureLexeme? cs with
    | .ok (some l) => IsLongest .capture cs l
    | .ok none => cs = []
    | .error fault => NoLexeme cs fault := by
  cases cs with
  | nil => rfl
  | cons c cs =>
      have hblank : ¬ c = ' ' ∧ ¬ c = '\r' ∧ ¬ c = '\t' := by simpa [IsBlank] using h c rfl
      by_cases hequals : c = '='
      · subst hequals
        have hspec := captureLexeme?_equals_spec cs
        cases hread : captureLexeme? ('=' :: cs) with
        | error fault => rwa [hread] at hspec
        | ok l =>
            rw [hread] at hspec
            obtain ⟨l', rfl, hlongest⟩ := hspec
            exact hlongest
      have hsingle : ∀ {token}, c = '?' ∨ c = '(' ∨ c = ')' → CaptureLexeme [c] token →
          IsLongest .capture (c :: cs) ⟨token, [c], cs⟩ := by
        intro token hc hlexeme
        have htail : captureTail c = fun _ => false := by rw [captureTail, if_pos hc]
        refine isLongest_singleton .capture hlexeme (fun t _ ht => ?_) cs
        simpa [htail, List.eq_nil_iff_forall_not_mem] using CaptureLexeme.tail hequals ht
      unfold captureLexeme?
      dsimp only
      by_cases hmark : c = '?'
      · subst hmark
        exact hsingle (.inl rfl) .questionMark
      rw [if_neg hmark]
      by_cases hleft : c = '('
      · subst hleft
        exact hsingle (.inr (.inl rfl)) .leftBracket
      rw [if_neg hleft]
      by_cases hright : c = ')'
      · subst hright
        exact hsingle (.inr (.inr rfl)) .rightBracket
      rw [if_neg hright]
      by_cases hbreak : c = '\n'
      · subst hbreak
        exact .newline cs
      rw [if_neg hbreak, if_neg hequals]
      refine isLongest_of_tail (.identifier ?_ fun d hd => ?_) fun t token ht => ?_
      · simp [hblank, hmark, hleft, hright, hbreak, hequals]
      · simpa [isIdentifierChar, isSpacing, and_assoc] using List.mem_takeWhile_imp hd
      · have htail := CaptureLexeme.tail hequals ht
        simpa [captureTail, hmark, hleft, hright] using htail

end Harvest.Pattern
