import Harvest.Proofs.Pattern.Lexeme

/-!
# Where Lexemes End

A lexeme that has been read does not see more of what follows than one character: it is the
longest one if and only if that character cannot go on with it. Spaces, carriage returns and
newlines go on with a line break only. So a lexeme stays the longest one if the source after it
is changed, as long as what comes then begins with the same character or, after another lexeme
than a line break, with one of these.

## Main results

* `IsLexeme.isLongest`, `IsLongest.goesOn_eq_false`: the longest lexeme and the next character.
* `IsLongest.before`: a longest lexeme before another rest of the source.
* `isLongest_lineBreak`: what a line break takes in.
-/

namespace Harvest.Pattern

/-! ### The next character -/

/-- A literal is over before a newline after it. -/
theorem CaptureLexeme.isLongest_literal {t : List Char} {token : Token}
    (h : CaptureLexeme ('=' :: t) token) (rest : List Char) :
    IsLongest .capture ('=' :: t ++ rest) ⟨token, '=' :: t, rest⟩ := by
  generalize htext : '=' :: t = text at h ⊢
  cases h with
  | questionMark | leftBracket | rightBracket => simp at htext
  | @regexp body value hbody =>
      have hlong : IsLongest .capture ('=' :: '/' :: (body ++ '/' :: rest)) _ :=
        isLongest_regexp hbody
      simpa using hlong
  | identifier hc _ =>
      obtain ⟨rfl, -⟩ := List.cons.inj htext
      simp at hc

/-- The characters that can go on with a lexeme that begins with the given one. A literal is over
with its closing slash. -/
def goesOn : Mode → (first : Char) → Char → Bool
  | .line, c => lineTail c
  | .capture, c => if c = '=' then fun _ => false else captureTail c
  | .done, _ => fun _ => false

/-- A lexeme that the next character cannot go on with is the longest one. -/
theorem IsLexeme.isLongest {mode : Mode} {c : Char} {t rest : List Char} {token : Token}
    (h : IsLexeme mode (c :: t) token)
    (hrest : ∀ d, rest.head? = some d → goesOn mode c d = false) :
    IsLongest mode (c :: t ++ rest) ⟨token, c :: t, rest⟩ := by
  by_cases hliteral : mode = .capture ∧ c = '='
  · obtain ⟨rfl, rfl⟩ := hliteral
    exact CaptureLexeme.isLongest_literal h rest
  -- Every character after the first one of a lexeme goes on with it.
  have htail : ∀ t' token', IsLexeme mode (c :: t') token' → ∀ d ∈ t', goesOn mode c d = true := by
    intro t' token' h'
    cases mode with
    | line => exact LineLexeme.tail h'
    | capture =>
        have hne : c ≠ '=' := fun hc => hliteral ⟨rfl, hc⟩
        rw [goesOn, if_neg hne]
        exact CaptureLexeme.tail hne h'
    | done => exact h'.elim
  refine ⟨rfl, h, fun text token' rest' heq hlexeme => ?_⟩
  rcases List.append_eq_append_iff.1 heq with ⟨more, htext, -⟩ | ⟨_ | ⟨d, past⟩, htext, hpast⟩
  · rw [htext, List.length_append]
    exact Nat.le_add_right _ _
  · rw [htext, List.append_nil]
  · rw [htext, List.cons_append] at hlexeme
    have hgoes := htail _ token' hlexeme d (List.mem_append_right t List.mem_cons_self)
    rw [hrest d (by rw [hpast]; rfl)] at hgoes
    cases hgoes

/-- A character that can go on with a lexeme makes a lexeme with it. -/
theorem exists_isLexeme_of_goesOn {mode : Mode} {c d : Char} {t : List Char} {token : Token}
    (h : IsLexeme mode (c :: t) token) (hd : goesOn mode c d = true) :
    ∃ token', IsLexeme mode (c :: (t ++ [d])) token' := by
  cases mode with
  | line =>
      have hd : lineTail c d = true := hd
      generalize htext : c :: t = text at h
      cases h with
      | indent htabs =>
          obtain ⟨rfl, rfl⟩ := List.cons.inj htext
          refine ⟨_, .indent (List.forall_mem_append.2 ⟨htabs, ?_⟩)⟩
          simpa [lineTail] using hd
      | lineBreak hblanks =>
          obtain ⟨rfl, rfl⟩ := List.cons.inj htext
          refine ⟨_, .lineBreak (List.forall_mem_append.2 ⟨hblanks, ?_⟩)⟩
          simpa [lineTail, isBreakBlank, or_assoc] using hd
      | questionMark | leftBracket | rightBracket =>
          obtain ⟨rfl, -⟩ := List.cons.inj htext
          exact absurd hd Bool.false_ne_true
      | selector hc hcs =>
          obtain ⟨rfl, rfl⟩ := List.cons.inj htext
          refine ⟨_, .selector hc (List.forall_mem_append.2 ⟨hcs, ?_⟩)⟩
          simp only [List.mem_cons, List.not_mem_nil, or_false, not_or] at hc
          simpa [lineTail, hc, isSelectorChar, isSpacing, and_assoc] using hd
  | capture =>
      generalize htext : c :: t = text at h
      cases h with
      | questionMark | leftBracket | rightBracket | regexp _ =>
          obtain ⟨rfl, -⟩ := List.cons.inj htext
          exact absurd hd Bool.false_ne_true
      | identifier hc hcs =>
          obtain ⟨rfl, rfl⟩ := List.cons.inj htext
          refine ⟨_, .identifier hc (List.forall_mem_append.2 ⟨hcs, ?_⟩)⟩
          simp only [List.mem_cons, List.not_mem_nil, or_false, not_or] at hc
          simpa [goesOn, captureTail, hc, isIdentifierChar, isSpacing, and_assoc] using hd
  | done => exact h.elim

/-- A longest lexeme ends where the next character cannot go on with it. -/
theorem IsLongest.goesOn_eq_false {mode : Mode} {c d : Char} {t rest : List Char} {token : Token}
    (h : IsLongest mode (c :: t ++ d :: rest) ⟨token, c :: t, d :: rest⟩) :
    goesOn mode c d = false := by
  by_contra hgoes
  rw [Bool.not_eq_false] at hgoes
  obtain ⟨token', hlonger⟩ := exists_isLexeme_of_goesOn h.isLexeme hgoes
  have hle : (t ++ [d]).length + 1 ≤ t.length + 1 :=
    h.length_le (c :: (t ++ [d])) token' rest (by simp) hlonger
  rw [List.length_append, List.length_singleton] at hle
  omega

/-- Of the lexemes, only a line break goes on with spaces and line ends. -/
theorem goesOn_isBreakBlank {mode : Mode} {c d : Char} {t : List Char} {token : Token}
    (h : IsLexeme mode (c :: t) token) (hbreak : token ≠ .lineBreak)
    (hd : isBreakBlank d = true) : goesOn mode c d = false := by
  by_contra hgoes
  rw [Bool.not_eq_false] at hgoes
  have hblank : d = ' ' ∨ d = '\r' ∨ d = '\n' := by simpa [isBreakBlank, or_assoc] using hd
  cases mode with
  | line =>
      have hgoes : lineTail c d = true := hgoes
      generalize htext : c :: t = text at h
      cases h with
      | lineBreak => exact hbreak rfl
      | indent | questionMark | leftBracket | rightBracket =>
          obtain ⟨rfl, -⟩ := List.cons.inj htext
          rcases hblank with rfl | rfl | rfl <;> exact absurd hgoes (by decide)
      | selector hc _ =>
          obtain ⟨rfl, -⟩ := List.cons.inj htext
          simp only [List.mem_cons, List.not_mem_nil, or_false, not_or] at hc
          rcases hblank with rfl | rfl | rfl <;>
            simp [lineTail, hc, isSelectorChar, isSpacing] at hgoes
  | capture =>
      rcases hblank with rfl | rfl | rfl <;>
        simp [goesOn, captureTail, ite_apply, isIdentifierChar, isSpacing] at hgoes
  | done => exact h.elim

/-- **A longest lexeme before another rest** of the source, which begins as the old one or, after
another lexeme than a line break, with a space or a line end. -/
theorem IsLongest.before {mode : Mode} {cs : List Char} {l : Lexeme} (h : IsLongest mode cs l)
    {rest : List Char}
    (hrest : ∀ d, rest.head? = some d →
      l.rest.head? = some d ∨ isBreakBlank d = true ∧ l.token ≠ .lineBreak) :
    IsLongest mode (l.text ++ rest) ⟨l.token, l.text, rest⟩ := by
  obtain ⟨token, text, rest'⟩ := l
  obtain ⟨c, t, rfl, -⟩ : ∃ c t, text = c :: t ∧ _ := h.isLexeme.exists_cons
  obtain rfl := h.append_eq
  refine h.isLexeme.isLongest fun d hd => ?_
  rcases hrest d hd with hsame | ⟨hblank, hbreak⟩
  · obtain ⟨more, rfl⟩ : ∃ more, rest' = d :: more := List.head?_eq_some_iff.1 hsame
    exact h.goesOn_eq_false
  · exact goesOn_isBreakBlank h.isLexeme hbreak hblank

/-- A longest lexeme that is not the last one stays what it is if the source goes on. -/
theorem IsLongest.append_of_ne_nil {mode : Mode} {cs : List Char} {l : Lexeme}
    (h : IsLongest mode cs l) (hrest : l.rest ≠ []) (more : List Char) :
    IsLongest mode (cs ++ more) ⟨l.token, l.text, l.rest ++ more⟩ := by
  obtain ⟨c, cs', hcons⟩ := List.exists_cons_of_ne_nil hrest
  have hlong : IsLongest mode (l.text ++ (l.rest ++ more)) _ := h.before fun d hd => by
    rw [hcons] at hd ⊢
    exact .inl hd
  rwa [← List.append_assoc, h.append_eq] at hlong

/-! ### Line breaks and newlines -/

theorem isLexeme_lineBreak {t : List Char} (h : ∀ d ∈ t, isBreakBlank d = true) :
    IsLexeme .line ('\n' :: t) .lineBreak :=
  .lineBreak fun d hd => by simpa [isBreakBlank, or_assoc] using h d hd

/-- A lexeme that is a line break. -/
theorem IsLexeme.eq_of_lineBreak {mode : Mode} {text : List Char}
    (h : IsLexeme mode text .lineBreak) :
    mode = .line ∧ ∃ t, text = '\n' :: t ∧ ∀ d ∈ t, isBreakBlank d = true := by
  cases mode with
  | line =>
      cases h with
      | lineBreak ht =>
          exact ⟨rfl, _, rfl, fun d hd => by simpa [isBreakBlank, or_assoc] using ht d hd⟩
  | capture => cases h
  | done => exact h.elim

/-- A newline and the blanks after it are a line break. -/
theorem isLongest_lineBreak {t cs : List Char} (ht : ∀ d ∈ t, isBreakBlank d = true)
    (hcs : ∀ c, cs.head? = some c → ¬ isBreakBlank c = true) :
    IsLongest .line ('\n' :: (t ++ cs)) ⟨.lineBreak, '\n' :: t, cs⟩ :=
  (isLexeme_lineBreak ht).isLongest fun d hd => Bool.eq_false_iff.2 (hcs d hd)

/-- Nothing that a line break takes in is left after it. -/
theorem IsLongest.head_rest_of_lineBreak {cs t rest : List Char}
    (h : IsLongest .line cs ⟨.lineBreak, '\n' :: t, rest⟩) :
    ∀ c, rest.head? = some c → ¬ isBreakBlank c = true := by
  intro c hc hblank
  obtain ⟨more, rfl⟩ : ∃ more, rest = c :: more := List.head?_eq_some_iff.1 hc
  obtain rfl := h.append_eq
  exact absurd (h.goesOn_eq_false.symm.trans hblank) Bool.false_ne_true

/-- Only line breaks and literals have newlines. -/
theorem IsLexeme.newline_notMem {mode : Mode} {text : List Char} {token : Token}
    (h : IsLexeme mode text token) (hbreak : token ≠ .lineBreak)
    (hliteral : ∀ value, token ≠ .regexp value) : '\n' ∉ text := by
  cases mode with
  | line =>
      cases h with
      | lineBreak => exact absurd rfl hbreak
      | indent htabs => simpa using fun h => absurd (htabs _ h) (by decide)
      | questionMark | leftBracket | rightBracket => decide
      | selector hc hcs =>
          simp only [List.mem_cons, not_or] at hc
          exact List.not_mem_cons_of_ne_of_not_mem (Ne.symm hc.2.2.2.1) fun h =>
            hcs _ h (by decide)
  | capture =>
      cases h with
      | regexp => exact absurd rfl (hliteral _)
      | questionMark | leftBracket | rightBracket => decide
      | identifier hc hcs =>
          simp only [List.mem_cons, not_or] at hc
          exact List.not_mem_cons_of_ne_of_not_mem (Ne.symm hc.2.2.2.1) fun h =>
            hcs _ h (by decide)
  | done => exact h.elim

/-- A literal ends with a slash. -/
theorem IsLexeme.getLast?_of_regexp {mode : Mode} {text : List Char} {value : String}
    (h : IsLexeme mode text (.regexp value)) : text.getLast? = some '/' := by
  cases mode with
  | line => cases h
  | capture =>
      cases h with
      | @regexp body _ _ => rw [← List.cons_append, ← List.cons_append, List.getLast?_concat]
  | done => exact h.elim

/-- A lexeme that ends with a newline is a line break. -/
theorem IsLexeme.eq_lineBreak_of_newline {mode : Mode} {text : List Char} {token : Token}
    (h : IsLexeme mode text token) (hlast : text.getLast? = some '\n') :
    mode = .line ∧ token = .lineBreak := by
  have hbreak : token = .lineBreak := by
    by_contra hbreak
    refine h.newline_notMem hbreak (fun value hvalue => ?_) (List.mem_of_getLast? hlast)
    subst hvalue
    rw [h.getLast?_of_regexp] at hlast
    cases hlast
  subst hbreak
  exact ⟨h.eq_of_lineBreak.1, rfl⟩

end Harvest.Pattern
