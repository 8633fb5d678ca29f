import Harvest.Proofs.Pattern.Seam

/-!
# Spaces and Line Ends

Spaces and carriage returns that are put between two lexemes leave the first one as it is, unless
it is a line break, which takes them in and is the same token on the same line. So they change
neither the lexemes before them nor those after them: the reading of the rest finds its way back
at the next lexeme. The same holds for carriage returns before the newlines of a source, since
each of these newlines is the first character of a line break or is taken in by one, unless it
belongs to a literal.

## Main results

* `Reads.insert`, `Reads.crlf`: the pieces of a source with blanks put into it, and with other
  line ends.
* `tokenize_respaced`: what follows for tokenizing and compiling.
-/

namespace Harvest.Pattern

/-- A space or a carriage return is blank in every mode. -/
theorem isBlank_of_isLineBlank {c : Char} (h : isLineBlank c = true) (mode : Mode) :
    IsBlank mode c := by
  have hblank : c = ' ' ∨ c = '\r' := by simpa [isLineBlank] using h
  cases mode <;> rcases hblank with rfl | rfl <;> simp [IsBlank]

/-- A space or a carriage return after a line break is taken in. -/
theorem isBreakBlank_of_isLineBlank {c : Char} (h : isLineBlank c = true) :
    isBreakBlank c = true := by
  rw [isLineBlank] at h
  rw [isBreakBlank, h, Bool.true_or]

/-! ### Pieces with other spacing -/

/-- Two pieces have the same token and the same newlines. -/
structure Piece.Like (p p' : Piece) : Prop where
  /-- The tokens are the same. -/
  token : p.token = p'.token
  /-- The blanks have as many newlines. -/
  blanks : newlines p.blanks = newlines p'.blanks
  /-- The lexemes have as many newlines. -/
  text : newlines p.text = newlines p'.text

theorem Piece.Like.refl (p : Piece) : p.Like p := ⟨rfl, rfl, rfl⟩

section

variable {pieces pieces' : List Piece}

/-- Like pieces pass the same number of newlines. -/
theorem newlines_flatMap_of_like (h : List.Forall₂ Piece.Like pieces pieces') :
    newlines (pieces.flatMap Piece.chars) = newlines (pieces'.flatMap Piece.chars) := by
  induction h with
  | nil => rfl
  | cons hp _ ih =>
      simp only [List.flatMap_cons, newlines_append, Piece.chars, hp.blanks, hp.text, ih]

/-- Like pieces lead to the same mode. -/
theorem modeAfterAll_of_like (h : List.Forall₂ Piece.Like pieces pieces') (mode : Mode) :
    modeAfterAll mode pieces = modeAfterAll mode pieces' := by
  induction h generalizing mode with
  | nil => rfl
  | @cons p p' _ _ hp _ ih =>
      change modeAfterAll (Scanner.modeAfter mode p.token) _ =
        modeAfterAll (Scanner.modeAfter mode p'.token) _
      rw [hp.token, ih]

/-- Like pieces have the same tokens on the same lines. -/
theorem numberedFrom_of_like (h : List.Forall₂ Piece.Like pieces pieces') (passed : Nat) :
    numberedFrom passed pieces = numberedFrom passed pieces' := by
  induction h generalizing passed with
  | nil => rfl
  | cons hp _ ih =>
      simp only [numberedFrom, Piece.chars, newlines_append, hp.token, hp.blanks, hp.text, ih]

end

/-- A text reads as the given pieces and blanks, but for the spacing. -/
def ReadsLike (mode : Mode) (cs : List Char) (pieces : List Piece) : Prop :=
  ∃ pieces' left, Reads mode cs pieces' left ∧ List.Forall₂ Piece.Like pieces pieces' ∧
    ∀ c ∈ left, IsBlank (modeAfterAll mode pieces) c

/-- A text that reads as the pieces of a source, but for the spacing, scans as the source. -/
theorem ReadsLike.scanAll_eq {source left cs : List Char} {pieces : List Piece}
    (h : ReadsLike .line cs pieces) (hsplits : Splits source pieces left) :
    scanAll cs = scanAll source := by
  obtain ⟨pieces', left', hreads, hlike, hleft⟩ := h
  rw [modeAfterAll_of_like hlike] at hleft
  rw [scanAll_of_reads hreads (.blanks hleft),
    scanAll_of_reads hsplits.reads (.blanks hsplits.isBlank), numberedFrom_of_like hlike,
    newlines_flatMap_of_like hlike]
  rfl

/-- Blanks read as no pieces. -/
theorem ReadsLike.nil {mode : Mode} {cs : List Char} (h : ∀ c ∈ cs, IsBlank mode c) :
    ReadsLike mode cs [] :=
  ⟨[], cs, .nil mode cs, .nil, h⟩

section

variable {mode : Mode} {blanks blanks' cs text rest : List Char} {token : Token}
  {pieces : List Piece}

/-- A lexeme that stays as it is, or has other spacing, before a text that reads as the other
pieces. -/
theorem ReadsLike.cons {text' : List Char} (hblanks : ∀ c ∈ blanks, IsBlank mode c)
    (hblanks' : ∀ c ∈ blanks', IsBlank mode c) (htext : newlines text = newlines text')
    (hlongest : IsLongest mode cs ⟨token, text', rest⟩)
    (h : ReadsLike (Scanner.modeAfter mode token) rest pieces) :
    ReadsLike mode (blanks' ++ cs) (⟨blanks, text, token⟩ :: pieces) := by
  obtain ⟨pieces', left, hreads, hlike, hleft⟩ := h
  refine ⟨_, left, .cons hblanks' hlongest hreads, .cons ⟨rfl, ?_, htext⟩ hlike, hleft⟩
  exact (newlines_eq_zero hblanks).trans (newlines_eq_zero hblanks').symm

/-- A text reads as its own pieces. -/
theorem Reads.readsLike {left : List Char} (h : Reads mode cs pieces left)
    (hleft : ∀ c ∈ left, IsBlank (modeAfterAll mode pieces) c) : ReadsLike mode cs pieces :=
  ⟨pieces, left, h, List.forall₂_same.2 fun p _ => .refl p, hleft⟩

end

/-! ### Blanks between lexemes -/

/-- The place after `n` characters lies inside the lexeme of a piece: after its first character
and before its last one. -/
def LiesIn (pieces : List Piece) (p : Piece) (n : Nat) : Prop :=
  ∃ before after, pieces = before ++ p :: after ∧
    (before.flatMap Piece.chars ++ p.blanks).length < n ∧
    n < (before.flatMap Piece.chars ++ p.chars).length

/-- The place after `n` characters lies inside a lexeme. -/
def InsideLexeme (pieces : List Piece) (n : Nat) : Prop :=
  ∃ p, LiesIn pieces p n

section

variable {p : Piece} {pieces : List Piece} {n : Nat}

/-- A place behind the blanks of a piece and before its end is inside its lexeme. -/
theorem insideLexeme_cons_of_lt (hlo : p.blanks.length < n) (hhi : n < p.chars.length) :
    InsideLexeme (p :: pieces) n :=
  ⟨p, [], pieces, rfl, hlo, hhi⟩

/-- A place inside a lexeme stays inside it if a piece comes before. -/
theorem InsideLexeme.cons (h : InsideLexeme pieces n) :
    InsideLexeme (p :: pieces) (p.chars.length + n) := by
  obtain ⟨q, before, after, rfl, hlo, hhi⟩ := h
  refine ⟨q, p :: before, after, rfl, ?_, ?_⟩
  · rw [List.flatMap_cons, List.append_assoc, List.length_append]
    exact Nat.add_lt_add_left hlo _
  · rw [List.flatMap_cons, List.append_assoc, List.length_append]
    exact Nat.add_lt_add_left hhi _

end

/-- Spaces and carriage returns after a lexeme: they are left to what comes after it, or they
belong to a line break. -/
theorem ReadsLike.cons_insert {mode : Mode} {cs blanks text past more after : List Char}
    {token : Token} {pieces : List Piece} (hblanks : ∀ c ∈ blanks, IsBlank mode c)
    (hlongest : IsLongest mode cs ⟨token, text, past ++ after⟩)
    (hmore : ∀ c ∈ more, isLineBlank c = true)
    (hsame : ReadsLike (Scanner.modeAfter mode token) (past ++ after) pieces)
    (h : ReadsLike (Scanner.modeAfter mode token) (past ++ (more ++ after)) pieces) :
    ReadsLike mode (blanks ++ (text ++ (past ++ (more ++ after))))
      (⟨blanks, text, token⟩ :: pieces) := by
  by_cases hbreak : token = .lineBreak ∧ past = []
  · obtain ⟨rfl, rfl⟩ := hbreak
    obtain ⟨rfl, t, rfl, ht⟩ := hlongest.isLexeme.eq_of_lineBreak
    have htake : ∀ d ∈ t ++ more, isBreakBlank d = true :=
      List.forall_mem_append.2 ⟨ht, fun d hd => isBreakBlank_of_isLineBlank (hmore d hd)⟩
    have hlong := isLongest_lineBreak htake hlongest.head_rest_of_lineBreak
    have hnewlines : newlines ('\n' :: t) = newlines ('\n' :: (t ++ more)) := by
      rw [← List.cons_append, newlines_append,
        newlines_eq_zero fun d hd => isBlank_of_isLineBlank (hmore d hd) .line]
      rfl
    have hcons := ReadsLike.cons hblanks hblanks hnewlines hlong hsame
    simpa using hcons
  · refine .cons hblanks hblanks rfl (hlongest.before fun d hd => ?_) h
    cases past with
    | cons e past => exact .inl hd
    | nil =>
        cases more with
        | nil => exact .inl hd
        | cons e more =>
            obtain rfl : e = d := Option.some.inj hd
            exact .inr ⟨isBreakBlank_of_isLineBlank (hmore e List.mem_cons_self),
              fun h => hbreak ⟨h, rfl⟩⟩

/-- **Blanks between two lexemes.** A text with spaces and carriage returns put into it, at a
place that does not lie inside a lexeme, reads as before. -/
theorem Reads.insert {mode : Mode} {source left : List Char} {pieces : List Piece}
    (h : Reads mode source pieces left)
    (hleft : ∀ c ∈ left, IsBlank (modeAfterAll mode pieces) c) {before more after : List Char}
    (hsource : before ++ after = source) (hplace : ¬ InsideLexeme pieces before.length)
    (hmore : ∀ c ∈ more, isLineBlank c = true) :
    ReadsLike mode (before ++ (more ++ after)) pieces := by
  induction h generalizing before with
  | nil mode cs =>
      obtain rfl := hsource
      refine .nil ?_
      simp only [List.forall_mem_append] at hleft ⊢
      exact ⟨hleft.1, fun c hc => isBlank_of_isLineBlank (hmore c hc) mode, hleft.2⟩
  | @cons mode blanks cs left l pieces hblanks hlongest hreads ih =>
      obtain ⟨token, text, rest⟩ := l
      have hsame := hreads.readsLike hleft
      have hbefore : ∀ b, blanks = before ++ b → after = b ++ cs →
          ReadsLike mode (before ++ (more ++ after)) (⟨blanks, text, token⟩ :: pieces) := by
        rintro b rfl rfl
        have hblanks' : ∀ c ∈ before ++ more ++ b, IsBlank mode c := by
          simp only [List.forall_mem_append] at hblanks ⊢
          exact ⟨⟨hblanks.1, fun c hc => isBlank_of_isLineBlank (hmore c hc) mode⟩, hblanks.2⟩
        have hlike := ReadsLike.cons hblanks hblanks' rfl hlongest hsame
        simpa using hlike
      rcases List.append_eq_append_iff.1 hsource with ⟨b, hb, hafter⟩ | ⟨_ | ⟨c, past⟩, rfl, hcs⟩
      · exact hbefore b hb hafter
      · exact hbefore [] (by simp) hcs.symm
      -- The place comes after the lexeme, since it does not lie inside.
      rw [← hlongest.append_eq] at hcs
      obtain ⟨past', hpast, hrest⟩ :
          ∃ past', c :: past = text ++ past' ∧ rest = past' ++ after := by
        rcases List.append_eq_append_iff.1 hcs with h | ⟨_ | ⟨d, tail⟩, htext, hafter⟩
        · exact h
        · exact ⟨[], by simpa using htext.symm, hafter.symm⟩
        · obtain rfl : text = (c :: past) ++ d :: tail := htext
          refine absurd (insideLexeme_cons_of_lt ?_ ?_) hplace
          · simp
          · simp [Piece.chars]
      obtain rfl := hrest
      have hplace' : ¬ InsideLexeme pieces past'.length := by
        intro hinside
        refine hplace ?_
        rw [hpast, ← List.append_assoc, List.length_append]
        exact hinside.cons
      rw [hpast, List.append_assoc, List.append_assoc]
      exact hsame.cons_insert hblanks hlongest hmore (ih hleft rfl hplace')

/-! ### Other line ends -/

/-- A text with a carriage return before each newline. -/
def crlf (cs : List Char) : List Char :=
  cs.flatMap fun c => if c = '\n' then ['\r', '\n'] else [c]

/-- The characters of a piece with a carriage return before each newline, unless the lexeme is a
literal. -/
def Piece.crlf (p : Piece) : List Char :=
  match p.token with
  | .regexp _ => p.chars
  | _ => Pattern.crlf p.chars

/-- Newlines are replaced one by one, so a text can be taken in parts. -/
theorem crlf_append (cs cs' : List Char) : crlf (cs ++ cs') = crlf cs ++ crlf cs' :=
  List.flatMap_append

theorem crlf_cons (c : Char) (cs : List Char) :
    crlf (c :: cs) = (if c = '\n' then ['\r', '\n'] else [c]) ++ crlf cs :=
  List.flatMap_cons

/-- A text without newlines stays as it is. -/
theorem crlf_eq_self {cs : List Char} (h : '\n' ∉ cs) : crlf cs = cs := by
  induction cs with
  | nil => rfl
  | cons c cs ih =>
      obtain ⟨hc, hcs⟩ := not_or.1 (mt List.mem_cons.2 h)
      rw [crlf_cons, if_neg (Ne.symm hc), ih hcs]
      rfl

/-- A carriage return is no newline: their number stays. -/
theorem newlines_crlf (cs : List Char) : newlines (crlf cs) = newlines cs := by
  induction cs with
  | nil => rfl
  | cons c cs ih =>
      rw [crlf_cons, newlines_append, ih]
      split
      · next h =>
          rw [h]
          exact (newlines_append ['\n'] cs).symm
      · exact (newlines_append [c] cs).symm

/-- Nothing but carriage returns is added. -/
theorem mem_crlf {c : Char} {cs : List Char} (h : c ∈ crlf cs) : c ∈ cs ∨ c = '\r' := by
  obtain ⟨d, hd, hc⟩ := List.mem_flatMap.1 h
  split at hc
  · next hnewline =>
      subst hnewline
      rcases List.mem_cons.1 hc with rfl | hc
      · exact .inr rfl
      · exact .inl (List.mem_singleton.1 hc ▸ hd)
  · exact .inl (List.mem_singleton.1 hc ▸ hd)

/-- A text begins as another one, or it begins with a carriage return where the other one begins
with a newline. -/
def StartsLike (cs cs' : List Char) : Prop :=
  ∀ d, cs.head? = some d → cs'.head? = some d ∨ d = '\r' ∧ cs'.head? = some '\n'

/-- Texts that start alike do so behind a text and its replacement. -/
theorem startsLike_crlf {cs cs' rest rest' : List Char} (hcs : cs = cs' ∨ cs = crlf cs')
    (hrest : StartsLike rest rest') : StartsLike (cs ++ rest) (cs' ++ rest') := by
  cases cs' with
  | nil =>
      obtain rfl : cs = [] := hcs.elim id id
      exact hrest
  | cons c cs' =>
      intro d hd
      rcases hcs with rfl | rfl
      · exact .inl hd
      · rw [crlf_cons] at hd
        split at hd
        · next h => exact .inr ⟨(Option.some.inj hd).symm, congrArg some h⟩
        · exact .inl hd

/-- A piece either keeps its newlines or has all of them replaced. -/
theorem Piece.crlf_eq (p : Piece) : p.crlf = p.chars ∨ p.crlf = Pattern.crlf p.chars := by
  rw [Piece.crlf]
  split
  · exact .inl rfl
  · exact .inr rfl

/-- The text of a reading starts alike before and after newlines are replaced in it. -/
theorem startsLike_flatMap_crlf (pieces : List Piece) (left : List Char) :
    StartsLike (pieces.flatMap Piece.crlf ++ crlf left) (pieces.flatMap Piece.chars ++ left) := by
  induction pieces with
  | nil =>
      have hnil : StartsLike [] [] := nofun
      simpa using startsLike_crlf (.inr (Eq.refl (crlf left))) hnil
  | cons p pieces ih =>
      rw [List.flatMap_cons, List.flatMap_cons, List.append_assoc, List.append_assoc]
      exact startsLike_crlf p.crlf_eq ih

/-- Only a line break has newlines that a carriage return comes before. -/
theorem Piece.crlf_eq_chars {mode : Mode} {blanks text : List Char} {token : Token}
    (hblanks : ∀ c ∈ blanks, IsBlank mode c) (h : IsLexeme mode text token)
    (hbreak : token ≠ .lineBreak) : Piece.crlf ⟨blanks, text, token⟩ = blanks ++ text := by
  by_cases hliteral : ∃ value, token = .regexp value
  · obtain ⟨value, rfl⟩ := hliteral
    rfl
  · have htext := h.newline_notMem hbreak fun value hvalue => hliteral ⟨value, hvalue⟩
    have hnewline : '\n' ∉ blanks := List.count_eq_zero.1 (newlines_eq_zero hblanks)
    rcases Piece.crlf_eq ⟨blanks, text, token⟩ with heq | heq
    · exact heq
    · rw [heq, Piece.chars, crlf_append, crlf_eq_self hnewline, crlf_eq_self htext]

/-- **Other line ends.** A text with a carriage return before each newline that does not belong
to a literal reads as before. -/
theorem Reads.crlf {mode : Mode} {source left : List Char} {pieces : List Piece}
    (h : Reads mode source pieces left)
    (hleft : ∀ c ∈ left, IsBlank (modeAfterAll mode pieces) c) :
    ReadsLike mode (pieces.flatMap Piece.crlf ++ crlf left) pieces := by
  induction h with
  | nil mode cs =>
      rw [List.flatMap_nil, List.nil_append, crlf_eq_self]
      · exact .nil hleft
      · exact List.count_eq_zero.1 (newlines_eq_zero hleft)
  | @cons mode blanks cs left l pieces hblanks hlongest hreads ih =>
      obtain ⟨token, text, rest⟩ := l
      have hstarts := startsLike_flatMap_crlf pieces left
      rw [hreads.append_eq] at hstarts
      have hlike := ih hleft
      rw [List.flatMap_cons, List.append_assoc]
      have hnewline : '\n' ∉ blanks := List.count_eq_zero.1 (newlines_eq_zero hblanks)
      by_cases hbreak : token = .lineBreak
      · -- The carriage return before the line break is blank, the others are taken in.
        subst hbreak
        obtain ⟨rfl, t, rfl, ht⟩ := hlongest.isLexeme.eq_of_lineBreak
        have hchars : Piece.crlf ⟨blanks, '\n' :: t, .lineBreak⟩ =
            (blanks ++ ['\r']) ++ '\n' :: Pattern.crlf t := by
          change Pattern.crlf (blanks ++ '\n' :: t) = _
          rw [crlf_append, crlf_eq_self hnewline, crlf_cons, if_pos rfl, List.append_assoc]
          rfl
        rw [hchars, List.append_assoc, List.cons_append]
        refine .cons hblanks ?_ ?_ (isLongest_lineBreak ?_ ?_) hlike
        · refine List.forall_mem_append.2 ⟨hblanks, ?_⟩
          simp [IsBlank]
        · exact (newlines_crlf ('\n' :: t)).symm
        · intro d hd
          rcases mem_crlf hd with hd | rfl
          · exact ht d hd
          · rfl
        · intro d hd
          rcases hstarts d hd with hsame | ⟨-, hnl⟩
          · exact hlongest.head_rest_of_lineBreak d hsame
          · exact absurd rfl (hlongest.head_rest_of_lineBreak '\n' hnl)
      · rw [Piece.crlf_eq_chars hblanks hlongest.isLexeme hbreak, List.append_assoc]
        refine .cons hblanks hblanks rfl (hlongest.before fun d hd => ?_) hlike
        rcases hstarts d hd with hsame | ⟨rfl, -⟩
        · exact .inl hsame
        · exact .inr ⟨rfl, hbreak⟩

/-! ### Tokens and patterns -/

/-- Sources that scan alike have the same tokens and compile to the same, or they have the same
fault. -/
theorem compile_of_scanAll_eq [Diagnostics] {source source' : String}
    (h : scanAll source'.toList = scanAll source.toList) :
    tokenize source' = tokenize source ∧ compile source' = compile source := by
  rw [tokenize, tokenize, compile, compile, compileRules, compileRules, h]
  exact ⟨rfl, rfl⟩

/-- **Spaces and line ends between lexemes do not matter.** A source that scans is cut into
lexemes with blanks before them. Spaces and carriage returns that are put into it anywhere but
inside one of these lexemes change neither its tokens nor their lines, and a carriage return
before each newline that does not belong to a literal changes neither. So what compiling the
source gives, a pattern or an error on a line, is the same as well. -/
theorem tokenize_respaced [Diagnostics] {source : String} {tokens : List (Token × Nat)}
    (h : tokenize source = .ok tokens) :
    ∃ pieces left, Splits source.toList pieces left ∧ tokens = numbered pieces ∧
      (∀ before after more, before ++ after = source.toList →
        ¬ InsideLexeme pieces before.length → (∀ c ∈ more, c = ' ' ∨ c = '\r') →
        tokenize (String.ofList (before ++ (more ++ after))) = .ok tokens ∧
          compile (String.ofList (before ++ (more ++ after))) = compile source) ∧
      tokenize (String.ofList (pieces.flatMap Piece.crlf ++ crlf left)) = .ok tokens ∧
        compile (String.ofList (pieces.flatMap Piece.crlf ++ crlf left)) = compile source := by
  obtain ⟨pieces, left, hsplits, htokens⟩ := exists_splits_of_tokenize h
  have hsame : ∀ cs, ReadsLike .line cs pieces →
      tokenize (String.ofList cs) = .ok tokens ∧ compile (String.ofList cs) = compile source := by
    intro cs hlike
    rw [← h]
    refine compile_of_scanAll_eq ?_
    rw [String.toList_ofList]
    exact hlike.scanAll_eq hsplits
  refine ⟨pieces, left, hsplits, htokens, fun before after more hsource hplace hmore => ?_, ?_⟩
  · refine hsame _ (hsplits.reads.insert hsplits.isBlank hsource hplace fun c hc => ?_)
    simpa [isLineBlank] using hmore c hc
  · exact hsame _ (hsplits.reads.crlf hsplits.isBlank)

/-- The theorem at a source with two newlines, of which the first belongs to a literal: only the
second one gets a carriage return. -/
theorem tokenize_respaced_literal :
    ∃ pieces left, Splits "a (x=/\n/)\nb".toList pieces left ∧
      numbered pieces = [(.selector "a", 1), (.leftBracket, 1), (.identifier "x", 1),
        (.regexp "\n", 1), (.rightBracket, 2), (.lineBreak, 2), (.selector "b", 3)] ∧
      tokenize (String.ofList (pieces.flatMap Piece.crlf ++ crlf left)) =
        .ok (numbered pieces) := by
  have htokenize : tokenize "a (x=/\n/)\nb" = .ok [(.selector "a", 1), (.leftBracket, 1),
      (.identifier "x", 1), (.regexp "\n", 1), (.rightBracket, 2), (.lineBreak, 2),
      (.selector "b", 3)] := by decide +kernel
  obtain ⟨pieces, left, hsplits, htokens, -, hcrlf, -⟩ := tokenize_respaced htokenize
  exact ⟨pieces, left, hsplits, htokens.symm, htokens ▸ hcrlf⟩

end Harvest.Pattern
