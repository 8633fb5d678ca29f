import Harvest.Proofs.Pattern.Item
import Harvest.Proofs.Pattern.Nesting
import Harvest.Proofs.Pattern.Scan

/-!
# The Language of Patterns

The compiler accepts a source if its tokens, between line breaks, are those of lines that are
accepted, and the first line with a selector is not indented. Acceptance is spread over the
scanner, the lines and the nesting. What ties them together is that the scanner is in capture
mode exactly while the line has an open capture, so that words and literals come only between
brackets, and tabs, selectors and line breaks only outside.

## Main results

* `LineDraft.mode_of_push`: the mode of the scanner follows the open capture.
* `continues_of_readLinesFrom`: tokens that are read as lines are those of lines.
* `compile_language`: which sources compile, and the headings that they have.
-/

namespace Harvest.Pattern

open Scanner (modeAfter)
open Item (tokensOf selectors groups)

variable {diagnostics : Diagnostics}

/-! ### The mode of a line -/

/-- The mode in which the next token of a line is read. -/
def LineDraft.mode (d : LineDraft) : Mode :=
  if d.openCapture.isSome then .capture else .line

/-- Where a bracket may stand: an opening one outside brackets, a closing one inside. -/
def BracketFits (mode : Mode) (token : Token) : Prop :=
  (token = .leftBracket → mode = .line) ∧ (token = .rightBracket → mode = .capture)

/-- What changes the open capture leaves one open. -/
theorem LineDraft.openCapture_of_inCapture {d d' : LineDraft} {description : String}
    {change : CaptureDraft → Except CompileFault CaptureDraft}
    (h : d.inCapture description change = .ok d') :
    d.openCapture.isSome = true ∧ d'.openCapture.isSome = true := by
  rw [inCapture] at h
  cases hopen : d.openCapture with
  | none => rw [hopen] at h; cases h
  | some c =>
      rw [hopen] at h
      obtain ⟨c', -, rfl⟩ := map_eq_ok_iff.1 h
      exact ⟨rfl, rfl⟩

/-- A token that is no bracket may stand anywhere. -/
theorem BracketFits.of_ne {mode : Mode} {token : Token} (hleft : token ≠ .leftBracket)
    (hright : token ≠ .rightBracket) : BracketFits mode token :=
  ⟨fun h => absurd h hleft, fun h => absurd h hright⟩

/-- **The mode follows the open capture.** -/
theorem LineDraft.mode_of_push {d d' : LineDraft} {token : Token} {line : Nat}
    (h : d.push token line = .ok d') :
    BracketFits d.mode token ∧ d'.mode = modeAfter d.mode token := by
  rw [push_eq_ok_iff] at h
  have hkeeps : d'.openCapture.isSome = d.openCapture.isSome → d'.mode = d.mode := by
    intro heq
    rw [mode, mode, heq]
  cases token with
  | leftBracket =>
      rw [add] at h
      split at h
      · cases h
      · rename_i hopen
        cases h
        exact ⟨⟨fun _ => if_neg hopen, by simp⟩, rfl⟩
  | rightBracket =>
      rw [add] at h
      split at h
      · cases h
      · rename_i c hopen
        obtain ⟨capture, -, rfl⟩ := map_eq_ok_iff.1 h
        have hsome : d.openCapture.isSome = true := Option.isSome_of_eq_some hopen
        exact ⟨⟨by simp, fun _ => if_pos hsome⟩, rfl⟩
  | identifier text | regexp source =>
      obtain ⟨hopen, hopen'⟩ := openCapture_of_inCapture h
      exact ⟨.of_ne (by simp) (by simp), hkeeps (hopen'.trans hopen.symm)⟩
  | selector text =>
      obtain ⟨-, s, -, rfl⟩ := addSelector_eq_ok_iff.1 h
      exact ⟨.of_ne (by simp) (by simp), rfl⟩
  | indent depth =>
      cases h
      refine ⟨.of_ne (by simp) (by simp), hkeeps ?_⟩
      cases d.number.isNone <;> rfl
  | questionMark | lineBreak | eof =>
      cases h
      exact ⟨.of_ne (by simp) (by simp), rfl⟩

/-- A line ends in line mode. -/
theorem LineDraft.mode_of_finish {d : LineDraft} {line : Nat} {made : Option Line}
    (h : d.finish line = .ok made) : d.mode = .line := by
  rw [finish] at h
  split at h
  · cases h
  · rename_i hopen
    exact if_neg hopen

/-- Tokens each of which has a lexeme in its mode. -/
def Moded : Mode → List Token → Prop
  | _, [] => True
  | mode, token :: tokens =>
      (∃ text, IsLexeme mode text token) ∧ Moded (modeAfter mode token) tokens

/-- The tokens of a reading have lexemes in the modes that the ones before them leave. -/
theorem Reads.moded {mode : Mode} {cs left : List Char} {pieces : List Piece}
    (h : Reads mode cs pieces left) : Moded mode (pieces.map Piece.token) := by
  induction h with
  | nil => trivial
  | cons _ hlongest _ ih => exact ⟨⟨_, hlongest.isLexeme⟩, ih⟩

/-! ### Tokens of lines -/

/-- The tokens of lines with line breaks between them. -/
def lineTokens (lines : List (List Item)) : List Token :=
  [Token.lineBreak].intercalate (lines.map tokensOf)

/-- A single line is written as its items. -/
theorem lineTokens_singleton (items : List Item) : lineTokens [items] = tokensOf items :=
  List.intercalate_singleton

/-- A line break stands between two lines. -/
theorem lineTokens_cons_cons (items items' : List Item) (rest : List (List Item)) :
    lineTokens (items :: items' :: rest) =
      tokensOf items ++ .lineBreak :: lineTokens (items' :: rest) := by
  rw [lineTokens, List.map_cons, List.map_cons, List.intercalate_cons_cons, List.append_assoc]
  rfl

theorem lineTokens_item (item : Item) (items : List Item) (rest : List (List Item)) :
    lineTokens ((item :: items) :: rest) = item.tokens ++ lineTokens (items :: rest) := by
  cases rest with
  | nil => simp [lineTokens, Item.tokensOf_cons]
  | cons items' rest => simp [lineTokens, Item.tokensOf_cons]

theorem lineTokens_lineBreak (items : List Item) (rest : List (List Item)) :
    lineTokens ([] :: items :: rest) = .lineBreak :: lineTokens (items :: rest) := by
  simp [lineTokens, tokensOf]

/-- Tokens go on from the given mode as those of lines do, of which the first has begun. In
capture mode a group comes to its end first. -/
def Continues : Mode → List Token → Prop
  | .capture, tokens => ∃ (parts : List Part) (items : List Item) (rest : List (List Item)),
      tokens = parts.map Part.token ++ .rightBracket :: lineTokens (items :: rest)
  | _, tokens => ∃ items rest, tokens = lineTokens (items :: rest)

/-- A part of a group stands in a capture and stays in it. -/
theorem Continues.part {tokens : List Token} (p : Part) (h : Continues .capture tokens) :
    Continues .capture (p.token :: tokens) := by
  obtain ⟨parts, items, rest, rfl⟩ := h
  exact ⟨p :: parts, items, rest, rfl⟩

/-- An item stands in a line and leads back to it. -/
theorem Continues.item {tokens : List Token} (item : Item) (h : Continues .line tokens) :
    Continues .line (item.tokens ++ tokens) := by
  obtain ⟨items, rest, rfl⟩ := h
  exact ⟨item :: items, rest, (lineTokens_item item items rest).symm⟩

/-- A line break leads from a line to a line. -/
theorem Continues.lineBreak {tokens : List Token} (h : Continues .line tokens) :
    Continues .line (.lineBreak :: tokens) := by
  obtain ⟨items, rest, rfl⟩ := h
  exact ⟨[], items :: rest, (lineTokens_lineBreak items rest).symm⟩

/-- An opening bracket leads into a capture. -/
theorem Continues.leftBracket {tokens : List Token} (h : Continues .capture tokens) :
    Continues .line (.leftBracket :: tokens) := by
  obtain ⟨parts, items, rest, rfl⟩ := h
  refine ⟨.group parts :: items, rest, ?_⟩
  rw [lineTokens_item, Item.tokens, List.cons_append, List.append_assoc, List.singleton_append]

/-- A closing bracket leads out of a capture. -/
theorem Continues.rightBracket {tokens : List Token} (h : Continues .line tokens) :
    Continues .capture (.rightBracket :: tokens) := by
  obtain ⟨items, rest, rfl⟩ := h
  exact ⟨[], items, rest, rfl⟩

/-- A token and what follows it. -/
theorem Continues.token {mode : Mode} {token : Token}
    (hlexeme : ∃ text, IsLexeme mode text token) (hfits : BracketFits mode token)
    {tokens : List Token} (h : Continues (modeAfter mode token) tokens) :
    Continues mode (token :: tokens) := by
  obtain ⟨text, hlexeme⟩ := hlexeme
  cases mode with
  | line =>
      cases hlexeme with
      | indent => exact h.item (.indent _)
      | lineBreak => exact h.lineBreak
      | questionMark => exact h.item .mark
      | leftBracket => exact h.leftBracket
      | rightBracket => exact absurd (hfits.2 rfl) nofun
      | selector => exact h.item (.selector _)
  | capture =>
      cases hlexeme with
      | questionMark => exact h.part .mark
      | leftBracket => exact absurd (hfits.1 rfl) nofun
      | rightBracket => exact h.rightBracket
      | regexp => exact h.part (.literal _)
      | identifier => exact h.part (.word _)
  | done => exact hlexeme.elim

/-- Tokens that are read as lines go on as those of lines do. -/
theorem continues_of_readLinesFrom {ending : Except CompileError Nat} {d : LineDraft}
    {tokens : List (Token × Nat)} (hmoded : Moded d.mode (tokens.map Prod.fst))
    {lines : List Line} (h : readLinesFrom ending d tokens = .ok lines) :
    Continues d.mode (tokens.map Prod.fst) := by
  induction tokens generalizing d lines with
  | nil =>
      obtain ⟨line, rfl⟩ := ending_of_readLinesFrom h
      rw [readLinesFrom] at h
      obtain ⟨made, hfinish, -⟩ := map_eq_ok_iff.1 h
      rw [LineDraft.mode_of_finish hfinish]
      exact ⟨[], [], rfl⟩
  | cons t tokens ih =>
      obtain ⟨token, line⟩ := t
      obtain ⟨hlexeme, hmoded⟩ := hmoded
      rw [readLinesFrom] at h
      split at h
      · rename_i hbreak
        obtain ⟨made, hfinish, h⟩ := bind_eq_ok_iff.1 h
        obtain ⟨more, hmore, -⟩ := bind_eq_ok_iff.1 h
        obtain rfl := hbreak
        rw [LineDraft.mode_of_finish hfinish] at hmoded ⊢
        exact Continues.lineBreak (@ih .empty hmoded more hmore)
      · obtain ⟨d', hpush, h⟩ := bind_eq_ok_iff.1 h
        obtain ⟨hfits, hmode⟩ := LineDraft.mode_of_push hpush
        refine Continues.token hlexeme hfits ?_
        rw [← hmode] at hmoded ⊢
        exact ih hmoded h

/-! ### Lines that are accepted -/

/-- What a line makes: nothing without a selector, and otherwise a line with its heading, at
its depth. -/
def MakesLine (items : List Item) : Option Line → Prop
  | none => selectors items = []
  | some l => l.depth = Item.depth items ∧ MakesHeading items l.heading

/-- Whether a line has a selector. -/
def hasSelector (items : List Item) : Bool :=
  !(selectors items).isEmpty

/-- No line break stands among the tokens of a line. -/
theorem lineBreak_notMem_tokensOf (items : List Item) : Token.lineBreak ∉ tokensOf items := by
  rw [tokensOf, List.mem_flatMap]
  rintro ⟨item, -, hmem⟩
  cases item with
  | group parts =>
      rw [Item.tokens, List.mem_cons, List.mem_append, List.mem_map, List.mem_singleton] at hmem
      rcases hmem with h | ⟨p, -, h⟩ | h
      · cases h
      · cases p <;> cases h
      · cases h
  | _ => cases List.mem_singleton.1 hmem

theorem ne_lineBreak_of_map_eq {items : List Item} {tokens : List (Token × Nat)}
    (htokens : tokens.map Prod.fst = tokensOf items) : ∀ t ∈ tokens, t.1 ≠ .lineBreak := by
  rintro t ht hbreak
  apply lineBreak_notMem_tokensOf items
  rw [← htokens, ← hbreak]
  exact List.mem_map_of_mem ht

section

variable {items : List Item} {tokens : List (Token × Nat)}

/-- A line can be read if and only if it is accepted. -/
theorem exists_readLine_iff (htokens : tokens.map Prod.fst = tokensOf items) (line : Nat) :
    (∃ made, readLine tokens line = .ok made) ↔ IsLine items := by
  rw [LineDraft.isLine_iff]
  constructor
  · rintro ⟨made, h⟩
    obtain ⟨d, hpush, -⟩ := bind_eq_ok_iff.1 h
    exact ⟨d, (LineDraft.pushAll_eq_ok_iff rfl (fun _ => rfl) htokens).1 hpush⟩
  · rintro ⟨d, hd⟩
    have hpush : LineDraft.empty.pushAll tokens = .ok d :=
      (LineDraft.pushAll_eq_ok_iff rfl (fun _ => rfl) htokens).2 hd
    rcases LineDraft.finish_spec hd line with ⟨-, hfinish⟩ | ⟨l, hfinish, -⟩
    · exact ⟨none, bind_eq_ok_iff.2 ⟨d, hpush, hfinish⟩⟩
    · exact ⟨some l, bind_eq_ok_iff.2 ⟨d, hpush, hfinish⟩⟩

/-- What is read is what the line makes. -/
theorem makesLine_of_readLine (htokens : tokens.map Prod.fst = tokensOf items) {line : Nat}
    {made : Option Line} (h : readLine tokens line = .ok made) : MakesLine items made := by
  obtain ⟨d, hpush, hfinish⟩ := bind_eq_ok_iff.1 h
  have hd := (LineDraft.pushAll_eq_ok_iff rfl (fun _ => rfl) htokens).1 hpush
  rcases LineDraft.finish_spec hd line with ⟨hnone, hfinish'⟩ | ⟨l, hfinish', hl⟩
  · obtain rfl := Except.ok.inj (hfinish.symm.trans hfinish')
    exact hnone
  · obtain rfl := Except.ok.inj (hfinish.symm.trans hfinish')
    exact hl

end

/-- The first line and the lines after its line break. -/
theorem exists_line_of_map_eq {items items' : List Item} {rest : List (List Item)}
    {tokens : List (Token × Nat)}
    (htokens : tokens.map Prod.fst = lineTokens (items :: items' :: rest)) :
    ∃ first n more, tokens = first ++ (.lineBreak, n) :: more ∧
      first.map Prod.fst = tokensOf items ∧
      more.map Prod.fst = lineTokens (items' :: rest) := by
  rw [lineTokens_cons_cons] at htokens
  obtain ⟨first, _, rfl, hfirst, hrest⟩ := List.map_eq_append_iff.1 htokens
  obtain ⟨⟨_, n⟩, more, rfl, rfl, hmore⟩ := List.map_eq_cons_iff.1 hrest
  exact ⟨first, n, more, rfl, hfirst, hmore⟩

/-- The lines that are made are those of the lines with a selector. -/
theorem forall₂_filter_cons {items : List Item} {made : Option Line}
    (h : MakesLine items made) {rest : List (List Item)} {more : List Line}
    (hrest : List.Forall₂ (fun items l => MakesLine items (some l)) (rest.filter hasSelector)
      more) :
    List.Forall₂ (fun items l => MakesLine items (some l))
      ((items :: rest).filter hasSelector) (made.toList ++ more) := by
  cases made with
  | none =>
      have hnone : selectors items = [] := h
      rwa [List.filter_cons_of_neg (by simp [hasSelector, hnone])]
  | some l =>
      have hsome : hasSelector items = true := by simp [hasSelector, h.2.selectors_eq]
      rw [List.filter_cons_of_pos hsome]
      exact .cons h hrest

/-- **Lines** can be read if and only if all of them are accepted. -/
theorem exists_readLinesFrom_iff {items : List Item} {rest : List (List Item)}
    {tokens : List (Token × Nat)} (htokens : tokens.map Prod.fst = lineTokens (items :: rest))
    (line : Nat) :
    (∃ made, readLinesFrom (.ok line) .empty tokens = .ok made) ↔
      ∀ items' ∈ items :: rest, IsLine items' := by
  induction rest generalizing items tokens with
  | nil =>
      rw [lineTokens_singleton] at htokens
      rw [readLinesFrom_last (ne_lineBreak_of_map_eq htokens)]
      rw [List.forall_mem_singleton, ← exists_readLine_iff htokens line]
      simp only [map_eq_ok_iff]
      exact ⟨fun ⟨_, made, hmade, _⟩ => ⟨made, hmade⟩,
        fun ⟨made, hmade⟩ => ⟨_, made, hmade, rfl⟩⟩
  | cons items' rest ih =>
      obtain ⟨first, n, more, rfl, hfirst, hmore⟩ := exists_line_of_map_eq htokens
      rw [readLinesFrom_line (ne_lineBreak_of_map_eq hfirst), List.forall_mem_cons,
        ← ih hmore, ← exists_readLine_iff hfirst n]
      simp only [bind_eq_ok_iff, map_eq_ok_iff]
      constructor
      · rintro ⟨_, made, hmade, lines, hlines, -⟩
        exact ⟨⟨made, hmade⟩, lines, hlines⟩
      · rintro ⟨⟨made, hmade⟩, lines, hlines⟩
        exact ⟨_, made, hmade, lines, hlines, rfl⟩

/-- Lines that are read are what the lines with a selector make. -/
theorem forall₂_of_readLinesFrom {items : List Item} {rest : List (List Item)}
    {tokens : List (Token × Nat)} (htokens : tokens.map Prod.fst = lineTokens (items :: rest))
    {line : Nat} {made : List Line}
    (h : readLinesFrom (.ok line) .empty tokens = .ok made) :
    List.Forall₂ (fun items l => MakesLine items (some l))
      ((items :: rest).filter hasSelector) made := by
  induction rest generalizing items tokens made with
  | nil =>
      rw [lineTokens_singleton] at htokens
      rw [readLinesFrom_last (ne_lineBreak_of_map_eq htokens)] at h
      obtain ⟨made, hmade, rfl⟩ := map_eq_ok_iff.1 h
      rw [← List.append_nil made.toList]
      exact forall₂_filter_cons (makesLine_of_readLine htokens hmade) .nil
  | cons items' rest ih =>
      obtain ⟨first, n, more, rfl, hfirst, hmore⟩ := exists_line_of_map_eq htokens
      rw [readLinesFrom_line (ne_lineBreak_of_map_eq hfirst)] at h
      obtain ⟨made, hmade, h⟩ := bind_eq_ok_iff.1 h
      obtain ⟨lines, hlines, rfl⟩ := map_eq_ok_iff.1 h
      exact forall₂_filter_cons (makesLine_of_readLine hfirst hmade) (ih hmore hlines)

/-! ### Sources -/

/-- A line starts and ends in line mode. -/
theorem foldl_modeAfter_tokensOf (items : List Item) :
    (tokensOf items).foldl modeAfter .line = .line := by
  have hparts : ∀ parts : List Part,
      (parts.map Part.token).foldl modeAfter .capture = .capture := by
    intro parts
    induction parts with
    | nil => rfl
    | cons p parts ih => cases p <;> exact ih
  induction items with
  | nil => rfl
  | cons item items ih =>
      rw [Item.tokensOf_cons, List.foldl_append]
      cases item with
      | group parts =>
          rw [Item.tokens, List.foldl_cons, List.foldl_append]
          change (tokensOf items).foldl modeAfter
            (modeAfter ((parts.map Part.token).foldl modeAfter .capture) .rightBracket) = .line
          rw [hparts]
          exact ih
      | _ => exact ih

/-- Lines begin and end in the mode of lines. -/
theorem foldl_modeAfter_lineTokens (items : List Item) (rest : List (List Item)) :
    (lineTokens (items :: rest)).foldl modeAfter .line = .line := by
  induction rest generalizing items with
  | nil => rw [lineTokens_singleton, foldl_modeAfter_tokensOf]
  | cons items' rest ih =>
      rw [lineTokens_cons_cons, List.foldl_append, foldl_modeAfter_tokensOf]
      exact ih items'

/-- The logical lines of a source that scans: it leaves no bracket open, and the tokens
between its line breaks are those of the lines. -/
def HasLines (source : String) (lines : List (List Item)) : Prop :=
  ∃ tokens, tokenize source = .ok tokens ∧
    (tokens.map Prod.fst).foldl modeAfter .line = .line ∧
    (tokens.map Prod.fst).splitOn .lineBreak = lines.map tokensOf

/-- A source has tokens if and only if its scan comes to the end with them. -/
theorem tokenize_eq_ok_iff {source : String} {tokens : List (Token × Nat)} :
    tokenize source = .ok tokens ↔ ∃ line, scanAll source.toList = ⟨tokens, .ok line⟩ := by
  rw [tokenize]
  rcases scanAll source.toList with ⟨tokens', e | line⟩
  · simp
  · simp

/-- The tokens of a source that has lines are theirs. -/
theorem HasLines.exists_scan {source : String} {lines : List (List Item)}
    (h : HasLines source lines) :
    ∃ items rest tokens line, lines = items :: rest ∧
      scanAll source.toList = ⟨tokens, .ok line⟩ ∧
      tokens.map Prod.fst = lineTokens (items :: rest) := by
  obtain ⟨tokens, htokenize, -, hsplit⟩ := h
  obtain ⟨line, hscan⟩ := tokenize_eq_ok_iff.1 htokenize
  have htokens : tokens.map Prod.fst = lineTokens lines := by
    rw [lineTokens, ← hsplit, List.intercalate_splitOn]
  cases lines with
  | nil => exact absurd hsplit (List.splitOn_ne_nil _ _)
  | cons items rest => exact ⟨items, rest, tokens, line, rfl, hscan, htokens⟩

/-- A source has the lines that its tokens are written as. -/
theorem HasLines.of_scan {source : String} {items : List Item} {rest : List (List Item)}
    {tokens : List (Token × Nat)} {line : Nat}
    (hscan : scanAll source.toList = ⟨tokens, .ok line⟩)
    (htokens : tokens.map Prod.fst = lineTokens (items :: rest)) :
    HasLines source (items :: rest) := by
  refine ⟨tokens, tokenize_eq_ok_iff.2 ⟨line, hscan⟩, ?_, ?_⟩
  · rw [htokens, foldl_modeAfter_lineTokens]
  · rw [htokens, lineTokens, List.splitOn_intercalate]
    · intro l hl
      obtain ⟨items', -, rfl⟩ := List.mem_map.1 hl
      exact lineBreak_notMem_tokensOf items'
    · exact List.cons_ne_nil _ _

/-- A source that is read as lines has lines. -/
theorem exists_hasLines {source : String} {made : List Line}
    (h : readLines (scanAll source.toList) = .ok made) : ∃ lines, HasLines source lines := by
  obtain ⟨pieces, left, fault?, hreads, -, hscan⟩ := scanAll_spec source.toList
  obtain ⟨line, hline⟩ := ending_of_readLinesFrom h
  rcases hs : scanAll source.toList with ⟨tokens, ending⟩
  rw [hs] at h hline hscan
  obtain rfl : ending = .ok line := hline
  have hmoded : Moded LineDraft.empty.mode (tokens.map Prod.fst) := by
    rw [(Scan.mk.inj hscan).1, map_fst_numberedFrom]
    exact hreads.moded
  obtain ⟨items, rest, htokens⟩ := continues_of_readLinesFrom hmoded h
  exact ⟨items :: rest, .of_scan hs htokens⟩

/-- A source compiles if its lines are read and can be arranged. The pattern has no filters of its
own. -/
theorem compile_eq_ok_iff {source : String} {p : Pattern} :
    compile source = .ok p ↔ ∃ made, readLines (scanAll source.toList) = .ok made ∧
      ∃ rules, arrange made = .ok rules ∧ ⟨rules, .empty⟩ = p := by
  rw [compile, map_eq_ok_iff, compileRules]
  simp only [bind_eq_ok_iff]
  constructor
  · rintro ⟨rules, ⟨made, hmade, hrules⟩, hp⟩
    exact ⟨made, hmade, rules, hrules, hp⟩
  · rintro ⟨made, hmade, rules, hrules, hp⟩
    exact ⟨rules, ⟨made, hmade, hrules⟩, hp⟩

/-- A source does not compile if its lines are not read, or are read and cannot be arranged. -/
theorem compile_eq_error_iff {source : String} {e : CompileError} :
    compile source = .error e ↔ readLines (scanAll source.toList) = .error e ∨
      ∃ made, readLines (scanAll source.toList) = .ok made ∧ arrange made = .error e := by
  rw [compile, map_eq_error_iff, compileRules, bind_eq_error_iff]

section

variable {source : String} {lines : List (List Item)}

/-- The lines of a source can be read if and only if they are accepted. -/
theorem exists_readLines_iff (h : HasLines source lines) :
    (∃ made, readLines (scanAll source.toList) = .ok made) ↔
      ∀ items ∈ lines, IsLine items := by
  obtain ⟨items, rest, tokens, line, rfl, hscan, htokens⟩ := h.exists_scan
  rw [hscan]
  exact exists_readLinesFrom_iff htokens line

/-- The lines that are read are those with a selector. -/
theorem forall₂_of_readLines (h : HasLines source lines) {made : List Line}
    (hmade : readLines (scanAll source.toList) = .ok made) :
    List.Forall₂ (fun items l => MakesLine items (some l)) (lines.filter hasSelector) made := by
  obtain ⟨items, rest, tokens, line, rfl, hscan, htokens⟩ := h.exists_scan
  rw [hscan] at hmade
  exact forall₂_of_readLinesFrom htokens hmade

end

/-- The first line that is read is not indented if the first line with a selector is not. -/
theorem depth_head_iff {lines : List (List Item)} {made : List Line}
    (h : List.Forall₂ (fun items l => MakesLine items (some l)) (lines.filter hasSelector)
      made) :
    (∀ l, made.head? = some l → l.depth = 0) ↔
      ∀ items, lines.find? hasSelector = some items → Item.depth items = 0 := by
  rw [← List.head?_filter]
  generalize lines.filter hasSelector = selected at h
  cases h with
  | nil => simp
  | cons hmakes _ => simp [← hmakes.1]

section

variable {source : String} {lines : List (List Item)}

/-- A source compiles if and only if it has lines, all of them are accepted, and the first one
with a selector is not indented. -/
theorem exists_compile_iff :
    (∃ p, compile source = .ok p) ↔
      ∃ lines, HasLines source lines ∧ (∀ items ∈ lines, IsLine items) ∧
        ∀ items, lines.find? hasSelector = some items → Item.depth items = 0 := by
  constructor
  · rintro ⟨p, hp⟩
    obtain ⟨made, hmade, rules, hrules, -⟩ := compile_eq_ok_iff.1 hp
    obtain ⟨lines, hlines⟩ := exists_hasLines hmade
    have hall := forall₂_of_readLines hlines hmade
    exact ⟨lines, hlines, (exists_readLines_iff hlines).1 ⟨made, hmade⟩,
      (depth_head_iff hall).1 (exists_arrange_iff.1 ⟨rules, hrules⟩)⟩
  · rintro ⟨lines, hlines, haccepted, hdepth⟩
    obtain ⟨made, hmade⟩ := (exists_readLines_iff hlines).2 haccepted
    have hall := forall₂_of_readLines hlines hmade
    obtain ⟨rules, hrules⟩ := exists_arrange_iff.2 ((depth_head_iff hall).2 hdepth)
    exact ⟨_, compile_eq_ok_iff.2 ⟨made, hmade, rules, hrules, rfl⟩⟩

/-- The headings of a compiled pattern are made by the lines with a selector. -/
theorem forall₂_of_compile {p : Pattern} (hp : compile source = .ok p)
    (hlines : HasLines source lines) :
    List.Forall₂ MakesHeading (lines.filter hasSelector) (Rule.headingsOfList p.rules) := by
  obtain ⟨made, hmade, rules, hrules, rfl⟩ := compile_eq_ok_iff.1 hp
  rw [headings_of_arrange hrules, List.forall₂_map_right_iff]
  exact (forall₂_of_readLines hlines hmade).imp fun _ _ h => h.2

end

/-- **The language.** A source compiles if and only if it scans and leaves no bracket open,
its lines are accepted, with a selector or without, and the first line with a selector is not
indented. The headings of the pattern are then those of the lines with a selector, in
order. -/
theorem compile_language (source : String) :
    ((∃ p, compile source = .ok p) ↔
      ∃ lines, HasLines source lines ∧ (∀ items ∈ lines, IsLine items) ∧
        ∀ items, lines.find? hasSelector = some items → Item.depth items = 0) ∧
    ∀ p lines, compile source = .ok p → HasLines source lines →
      List.Forall₂ MakesHeading (lines.filter hasSelector) (Rule.headingsOfList p.rules) :=
  ⟨exists_compile_iff, fun _ _ hp hlines => forall₂_of_compile hp hlines⟩

end Harvest.Pattern
