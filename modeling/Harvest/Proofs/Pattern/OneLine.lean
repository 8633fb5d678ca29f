import Harvest.Proofs.Pattern.Ending
import Harvest.Proofs.Pattern.Language

/-!
# A Rule on One Line

The shortest pattern with a capture is a line with a selector and one group of two words: the
attribute that is captured and the target that it goes to. It compiles to one rule with one
capture, whatever the words are, as long as each of them is one word where it stands.

## Main results

* `hasLines_attributeRule`: what is read on the line.
* `makes_pair_iff`: the capture of a group of two words.
* `compile_attributeRule`: the pattern of the line.
-/

namespace Harvest.Pattern

open Scanner (modeAfter)

/-- A rule that captures one attribute into one field. -/
def attributeRule (selector key field : String) : String :=
  selector ++ " (" ++ key ++ " " ++ field ++ ")"

/-- A bare word of a capture. -/
theorem isLexeme_identifier {w : String} {c : Char} {t : List Char}
    (hw : w = String.ofList (c :: t)) (hc : c ∉ [' ', '\t', '\r', '\n', '(', ')', '=', '?'])
    (ht : ∀ d ∈ t, d ∉ [' ', '\t', '\r', '\n', '(', ')', '=']) :
    IsLexeme .capture w.toList (.identifier w) := by
  rw [hw, String.toList_ofList]
  exact .identifier hc ht

/-- A bare word of a line. -/
theorem isLexeme_selector {w : String} {c : Char} {t : List Char} (hw : w = String.ofList (c :: t))
    (hc : c ∉ [' ', '\t', '\r', '\n', '(', ')', '?'])
    (ht : ∀ d ∈ t, d ∉ [' ', '\t', '\r', '\n']) :
    IsLexeme .line w.toList (.selector w) := by
  rw [hw, String.toList_ofList]
  exact .selector hc ht

/-- A lexeme after blanks, before a text that does not go on with it. -/
theorem Reads.lexeme {mode : Mode} (blanks : List Char) {text rest left : List Char}
    {token : Token} {pieces : List Piece} (hblanks : ∀ c ∈ blanks, IsBlank mode c)
    (hlexeme : IsLexeme mode text token)
    (hrest : ∀ c t, text = c :: t → ∀ d, rest.head? = some d → goesOn mode c d = false)
    (h : Reads (modeAfter mode token) rest pieces left) :
    Reads mode (blanks ++ (text ++ rest)) (⟨blanks, text, token⟩ :: pieces) left := by
  obtain ⟨c, t, rfl, -⟩ := hlexeme.exists_cons
  exact .cons hblanks (hlexeme.isLongest (hrest c t rfl)) h

/-- A word ends before a space. -/
theorem goesOn_space {mode : Mode} {text : List Char} {token : Token}
    (h : IsLexeme mode text token) (hbreak : token ≠ .lineBreak) (rest : List Char) (c : Char)
    (t : List Char) (htext : text = c :: t) (d : Char) (hd : (' ' :: rest).head? = some d) :
    goesOn mode c d = false := by
  obtain rfl := htext
  obtain rfl := Option.some.inj hd
  exact goesOn_isBreakBlank h hbreak (by decide)

/-- An identifier ends before a closing bracket. -/
theorem goesOn_rightBracket {f : String} {text : List Char}
    (h : IsLexeme .capture text (.identifier f)) (c : Char) (t : List Char)
    (htext : text = c :: t) (d : Char) (hd : [')'].head? = some d) :
    goesOn .capture c d = false := by
  obtain rfl := htext
  obtain rfl := Option.some.inj hd
  cases h with
  | identifier hc _ =>
      simp only [List.mem_cons, List.not_mem_nil, or_false, not_or] at hc
      simp [goesOn, captureTail, hc, isIdentifierChar]

section

variable {s k f : String} {selector : Css.Selector}

/-- The rule is one line: a selector and a group of two words. -/
theorem hasLines_attributeRule (hs : IsLexeme .line s.toList (.selector s))
    (hk : IsLexeme .capture k.toList (.identifier k))
    (hf : IsLexeme .capture f.toList (.identifier f)) :
    HasLines (attributeRule s k f) [[.selector s, .group [.word k, .word f]]] := by
  have hleft : IsLexeme .line ['('] .leftBracket := LineLexeme.leftBracket
  have hright : IsLexeme .capture [')'] .rightBracket := CaptureLexeme.rightBracket
  have hnothing : ∀ {c t}, ['('] = c :: t → ∀ d, goesOn .line c d = false := by
    intro c t htext d
    obtain ⟨rfl, -⟩ := List.cons.inj htext
    rfl
  have hclose : Reads .capture [')'] [⟨[], [')'], .rightBracket⟩] [] :=
    Reads.lexeme [] (List.forall_mem_nil _) hright (by simp) (.nil .line [])
  have hfield : Reads .capture (' ' :: (f.toList ++ [')']))
      [⟨[' '], f.toList, .identifier f⟩, ⟨[], [')'], .rightBracket⟩] [] :=
    Reads.lexeme [' '] (by simp [IsBlank]) hf (goesOn_rightBracket hf) hclose
  have hkey : Reads .capture (k.toList ++ ' ' :: (f.toList ++ [')']))
      (⟨[], k.toList, .identifier k⟩ :: _) [] :=
    Reads.lexeme [] (List.forall_mem_nil _) hk (goesOn_space hk (by simp) _) hfield
  have hopen : Reads .line (' ' :: '(' :: (k.toList ++ ' ' :: (f.toList ++ [')'])))
      (⟨[' '], ['('], .leftBracket⟩ :: _) [] :=
    Reads.lexeme [' '] (by simp [IsBlank]) hleft (fun c t htext d _ => hnothing htext d) hkey
  have hreads : Reads .line (s.toList ++ ' ' :: '(' :: (k.toList ++ ' ' :: (f.toList ++ [')'])))
      (⟨[], s.toList, .selector s⟩ :: _) [] :=
    Reads.lexeme [] (List.forall_mem_nil _) hs (goesOn_space hs (by simp) _) hopen
  have hsource : (attributeRule s k f).toList =
      s.toList ++ ' ' :: '(' :: (k.toList ++ ' ' :: (f.toList ++ [')'])) := by
    simp [attributeRule]
  rw [← hsource] at hreads
  refine .of_scan (scanAll_of_reads hreads (.blanks (List.forall_mem_nil _))) ?_
  rw [map_fst_numberedFrom, lineTokens_singleton]
  rfl

/-- A text is one target at most. -/
theorem IsTarget.unique {text : String} {t t' : Target} (h : IsTarget text t)
    (h' : IsTarget text t') : t = t' := by
  obtain ⟨field, filters⟩ := t
  obtain ⟨field', filters'⟩ := t'
  obtain ⟨rfl, rfl⟩ := List.cons.inj (h.1.symm.trans h'.1)
  rfl

/-- A group of two words makes a capture of the first one into the second one. -/
theorem makes_pair_iff {t : Target} (ht : IsTarget f t) {c : Capture} :
    Makes [.word k, .word f] c ↔ c = ⟨.ofKey k, none, [t]⟩ := by
  have hwords : Part.words [.word f] = [f] := rfl
  have hliterals : Part.literals [.word f] = [] := rfl
  rw [makes_cons_iff, hwords, hliterals, atMostOne_nil_iff, List.forall₂_cons_left_iff]
  simp only [List.forall₂_nil_left_iff]
  constructor
  · rintro ⟨hsource, -, ⟨t', _, ht', rfl, htargets⟩, hexpression, -⟩
    obtain ⟨source, expression, targets⟩ := c
    obtain rfl := ht'.unique ht
    rw [Capture.mk.injEq]
    exact ⟨hsource, hexpression, htargets⟩
  · rintro rfl
    exact ⟨rfl, List.cons_ne_nil _ _, ⟨t, [], ht, rfl, rfl⟩, rfl, nofun⟩

/-- A pattern with one heading has one rule. -/
theorem eq_of_headingsOfList_eq {rules : List Rule} {heading : Heading}
    (h : Rule.headingsOfList rules = [heading]) : rules = [.mk heading []] := by
  have hnil : ∀ {rules : List Rule}, Rule.headingsOfList rules = [] → rules = [] := by
    intro rules hnone
    cases rules with
    | nil => rfl
    | cons r rs =>
        obtain ⟨heading, children⟩ := r
        rw [Rule.headingsOfList, Rule.headings] at hnone
        cases hnone
  cases rules with
  | nil => cases h
  | cons r rs =>
      obtain ⟨heading', children⟩ := r
      rw [Rule.headingsOfList, Rule.headings, List.cons_append] at h
      obtain ⟨rfl, hrest⟩ := List.cons.inj h
      obtain ⟨hchildren, hrs⟩ := List.append_eq_nil_iff.1 hrest
      rw [hnil hchildren, hnil hrs]

/-- The heading of the rule. -/
theorem eq_of_makesHeading (hread : Css.Selector.read? s = some selector) {t : Target}
    (ht : IsTarget f t) {heading : Heading}
    (h : MakesHeading [.selector s, .group [.word k, .word f]] heading) :
    heading = ⟨s, selector, false, [⟨.ofKey k, none, [t]⟩]⟩ := by
  obtain ⟨text, selector', optional, captures⟩ := heading
  obtain ⟨htext, hread', hoptional, hcaptures⟩ := h
  obtain ⟨c, _, hc, hnone, hcons⟩ := List.forall₂_cons_left_iff.1 hcaptures
  obtain rfl := List.forall₂_nil_left_iff.1 hnone
  obtain rfl := (makes_pair_iff ht).1 hc
  obtain ⟨rfl, -⟩ := List.cons.inj htext
  rw [Heading.mk.injEq]
  exact ⟨rfl, Option.some.inj (hread'.symm.trans hread), hoptional, hcons⟩

/-- **The pattern of the rule.** It has one rule with one capture. -/
theorem compile_attributeRule [Diagnostics] (hs : IsLexeme .line s.toList (.selector s))
    (hread : Css.Selector.read? s = some selector)
    (hk : IsLexeme .capture k.toList (.identifier k))
    (hf : IsLexeme .capture f.toList (.identifier f)) {t : Target} (ht : IsTarget f t) :
    compile (attributeRule s k f) =
      .ok ⟨[.mk ⟨s, selector, false, [⟨.ofKey k, none, [t]⟩]⟩ []], .empty⟩ := by
  have hlines := hasLines_attributeRule hs hk hf
  have hline : IsLine [.selector s, .group [.word k, .word f]] := by
    refine ⟨Nat.le_refl 1, ?_, ?_⟩
    · simpa [Item.selectors] using ⟨selector, hread⟩
    · simpa [Item.groups] using isGroup_iff.2 ⟨_, (makes_pair_iff ht).2 rfl⟩
  obtain ⟨p, hp⟩ := exists_compile_iff.2
    ⟨_, hlines, List.forall_mem_singleton.2 hline, fun items hitems => by cases hitems; rfl⟩
  have hheadings := forall₂_of_compile hp hlines
  obtain ⟨made, -, rules, -, rfl⟩ := compile_eq_ok_iff.1 hp
  obtain ⟨heading, _, hmakes, hnil, hrules⟩ := List.forall₂_cons_left_iff.1 hheadings
  obtain rfl := List.forall₂_nil_left_iff.1 hnil
  obtain rfl := eq_of_makesHeading hread ht hmakes
  obtain rfl : rules = _ := eq_of_headingsOfList_eq hrules
  exact hp

end

end Harvest.Pattern
