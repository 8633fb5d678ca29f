import Harvest.Filter.Name
import Harvest.Proofs.Pattern.OneLine

/-!
# Calling Filters

A target is one word: a field, and behind it the names of filters, with dots between them. Three
rules have to agree on it. The scanner ends the word at blanks, brackets and equals signs, the
target is cut at the dots, and the registry of filters has its own rule for names. They do, since
no letter, numeral or underscore of any script is one of these characters. So whatever can be
registered can be called, and in a chain of any length.

Reading a target is the inverse of writing it: the parts of a text between its dots are the only
texts without dots that it is made of.

## Main results

* `Text.pieces_eq_splitOn`: the pieces of a text are what stands between its separators.
* `isTarget_iff`: a text is read as the target that is written like that.
* `parse_eq_error_iff`: which texts are no targets.
* `filters_callable`: a chain of names in a rule, and the texts of targets.
-/

namespace Harvest.Text

/-- The fold that cuts a text into pieces, after some pieces and the beginning of one more. -/
theorem foldl_pieces (sep : Char) (cs last : List Char) (done : List (List Char)) :
    (match cs.foldl (fun (acc : List Char × List (List Char)) c =>
        if c = sep then ([], acc.1.reverse :: acc.2) else (c :: acc.1, acc.2)) (last, done) with
      | (last, done) => (last.reverse :: done).reverse) =
      done.reverse ++ cs.splitOnPPrepend (· == sep) last := by
  induction cs generalizing last done with
  | nil => simp [List.splitOnPPrepend_nil]
  | cons c cs ih =>
      rw [List.foldl_cons, List.splitOnPPrepend_cons_eq_if]
      by_cases hc : c = sep
      · rw [if_pos hc, ih, if_pos (beq_iff_eq.2 hc), List.splitOnPPrepend_nil_right,
          List.reverse_cons, List.append_assoc, List.singleton_append]
      · rw [if_neg hc, ih, if_neg (mt beq_iff_eq.1 hc)]

/-- The pieces of a text are what stands between its separators. -/
theorem pieces_eq_splitOn (sep : Char) (cs : List Char) : pieces sep cs = cs.splitOn sep := by
  rw [List.splitOn_eq_splitOnP, List.splitOnP_eq_splitOnPPrepend]
  exact foldl_pieces sep cs [] []

/-- No separator is left in what stands between separators. -/
theorem notMem_of_mem_splitOn {sep : Char} {cs piece : List Char} (h : piece ∈ cs.splitOn sep) :
    sep ∉ piece := by
  induction cs generalizing piece with
  | nil =>
      rw [List.splitOn_nil, List.mem_singleton] at h
      rw [h]
      exact List.not_mem_nil
  | cons c cs ih =>
      rw [List.splitOn_cons_eq_if_modifyHead] at h
      split at h
      · rcases List.mem_cons.1 h with rfl | h
        · exact List.not_mem_nil
        · exact ih h
      · -- The character goes to the first piece of the rest.
        rename_i hc
        obtain ⟨first, others, hsplit⟩ := List.exists_cons_of_ne_nil (List.splitOn_ne_nil sep cs)
        rw [hsplit] at h ih
        rcases List.mem_cons.1 h with rfl | h
        · have hne : sep ≠ c := fun heq => hc (beq_iff_eq.2 heq.symm)
          exact List.not_mem_cons_of_ne_of_not_mem hne (ih List.mem_cons_self)
        · exact ih (List.mem_cons_of_mem _ h)

end Harvest.Text

namespace Harvest.Filter

/-! ### Names -/

/-- The characters that have a meaning in a group: those that end a word, the dot between the
parts of a target, and the question mark, which is no beginning of a word. -/
def delimiters : List Char :=
  [' ', '\t', '\r', '\n', '(', ')', '=', '.', '?']

/-- No character of a name delimits a call. -/
theorem notMem_delimiters_of_isNameRest {c : Char} (h : isNameRest c = true) :
    c ∉ delimiters := by
  have hnone : ∀ d ∈ delimiters, isNameRest d = false := by
    simp [delimiters, isNameRest, Text.isAlphanumeric, Text.isLetter, Text.isNumeral]
  intro hc
  rw [hnone c hc] at h
  cases h

/-- A character that may begin a name may also follow in it. -/
theorem isNameRest_of_isNameStart {c : Char} (h : isNameStart c = true) :
    isNameRest c = true := by
  rw [isNameStart, Bool.or_eq_true] at h
  rw [isNameRest, Text.isAlphanumeric, Bool.or_eq_true, Bool.or_eq_true]
  exact h.imp_right .inl

/-- **Names** are not empty, and there is no delimiter in them. -/
theorem ne_empty_and_notMem_delimiters_of_isName {name : String} (h : isName name = true) :
    name ≠ "" ∧ ∀ c ∈ name.toList, c ∉ delimiters := by
  rw [isName] at h
  split at h
  · cases h
  · rename_i c cs hname
    rw [Bool.and_eq_true, List.all_eq_true] at h
    obtain ⟨hstart, hrest⟩ := h
    constructor
    · rintro rfl
      cases hname
    · rw [hname]
      exact List.forall_mem_cons.2
        ⟨notMem_delimiters_of_isNameRest (isNameRest_of_isNameStart hstart),
          fun d hd => notMem_delimiters_of_isNameRest (hrest d hd)⟩

end Harvest.Filter

namespace Harvest.Pattern

open Harvest.Filter (isName delimiters ne_empty_and_notMem_delimiters_of_isName)

/-! ### The text of a target -/

/-- How a target is written: its field and its filters, with dots between them. -/
def Target.text (t : Target) : String :=
  ".".intercalate (t.field :: t.filters)

/-- The segments of a target are what stands between its points. -/
theorem segments_eq (text : String) :
    segments text = (text.toList.splitOn '.').map String.ofList := by
  rw [segments, Text.pieces_eq_splitOn]

/-- The segments of a text with dots between them are the text. -/
theorem intercalate_segments (text : String) : ".".intercalate (segments text) = text := by
  have hid : String.toList ∘ String.ofList = id := funext fun _ => String.toList_ofList
  rw [← String.toList_inj, String.toList_intercalate, segments_eq, List.map_map, hid, List.map_id]
  exact List.intercalate_splitOn '.'

/-- Texts without dots are the segments of what they make with dots between them. -/
theorem segments_intercalate {parts : List String} (hne : parts ≠ [])
    (h : ∀ s ∈ parts, '.' ∉ s.toList) : segments (".".intercalate parts) = parts := by
  have hid : String.ofList ∘ String.toList = id := funext fun _ => String.ofList_toList
  have hsplit : (['.'].intercalate (parts.map String.toList)).splitOn '.' =
      parts.map String.toList :=
    List.splitOn_intercalate '.' (List.forall_mem_map.2 h) (mt List.map_eq_nil_iff.1 hne)
  rw [segments_eq, String.toList_intercalate]
  refine (congrArg (List.map String.ofList) hsplit).trans ?_
  rw [List.map_map, hid, List.map_id]

/-- No segment holds a point. -/
theorem dot_notMem_of_mem_segments {text s : String} (h : s ∈ segments text) :
    '.' ∉ s.toList := by
  rw [segments_eq] at h
  obtain ⟨piece, hpiece, rfl⟩ := List.mem_map.1 h
  rw [String.toList_ofList]
  exact Text.notMem_of_mem_splitOn hpiece

theorem forall_segments_ne_iff {text : String} :
    (∀ s ∈ segments text, s ≠ "") ↔ [] ∉ text.toList.splitOn '.' := by
  rw [segments_eq, List.forall_mem_map]
  constructor
  · exact fun h hmem => h [] hmem rfl
  · intro h piece hpiece hempty
    rw [← String.toList_inj, String.toList_ofList] at hempty
    obtain rfl : piece = [] := hempty
    exact h hpiece

/-- **Reading and writing a target** are inverse to each other, for targets whose field and whose
filters are not empty and have no dots. -/
theorem isTarget_iff {text : String} {t : Target} :
    IsTarget text t ↔
      t.text = text ∧ ∀ s ∈ t.field :: t.filters, s ≠ "" ∧ '.' ∉ s.toList := by
  constructor
  · rintro ⟨hsegments, hne⟩
    refine ⟨?_, fun s hs => ?_⟩
    · rw [Target.text, ← hsegments, intercalate_segments]
    · rw [← hsegments] at hs
      exact ⟨hne s hs, dot_notMem_of_mem_segments hs⟩
  · rintro ⟨rfl, h⟩
    have hsegments : segments t.text = t.field :: t.filters :=
      segments_intercalate (List.cons_ne_nil _ _) fun s hs => (h s hs).2
    refine ⟨hsegments, fun s hs => ?_⟩
    rw [hsegments] at hs
    exact (h s hs).1

section

variable {text : String}

/-- A text is read as a target if nothing between its points is empty. -/
theorem exists_parse_iff :
    (∃ t, Target.parse text = .ok t) ↔ [] ∉ text.toList.splitOn '.' := by
  simp only [parse_eq_ok_iff, exists_isTarget_iff, forall_segments_ne_iff]

variable (text) in
/-- There is one fault that reading a target may have. -/
theorem parse_eq_ok_or_error :
    (∃ t, Target.parse text = .ok t) ∨ Target.parse text = .error (.emptySegment text) := by
  rw [Target.parse]
  split
  · exact .inr rfl
  · split
    · exact .inr rfl
    · exact .inl ⟨_, rfl⟩

/-- A text is no target if and only if it has an empty segment, and that is its fault. -/
theorem parse_eq_error_iff {fault : CompileFault} :
    Target.parse text = .error fault ↔
      [] ∈ text.toList.splitOn '.' ∧ fault = .emptySegment text := by
  rcases parse_eq_ok_or_error text with hok | herror
  · have hnotMem := exists_parse_iff.1 hok
    obtain ⟨t, ht⟩ := hok
    rw [ht]
    exact ⟨nofun, fun h => absurd h.1 hnotMem⟩
  · have hmem : [] ∈ text.toList.splitOn '.' := by
      by_contra hnotMem
      obtain ⟨t, ht⟩ := exists_parse_iff.2 hnotMem
      rw [ht] at herror
      cases herror
    rw [herror, Except.error.injEq]
    exact ⟨fun h => ⟨hmem, h.symm⟩, fun h => h.2.symm⟩

end

/-! ### Chains of names -/

/-- A word that can stand for a field: it is read as one word of a group, and no dot cuts it. -/
structure IsField (f : String) : Prop where
  /-- It is not empty. -/
  ne_empty : f ≠ ""
  /-- Nothing in it ends the word or the field. -/
  notMem : ∀ c ∈ f.toList, c ∉ [' ', '\t', '\r', '\n', '(', ')', '=', '.']
  /-- It does not begin with a question mark. -/
  head_ne : f.toList.head? ≠ some '?'

/-- What is in texts with separators between them is in one of the texts or in a separator. -/
theorem mem_of_mem_intercalate {α : Type} {sep : List α} {parts : List (List α)} {a : α}
    (h : a ∈ sep.intercalate parts) : a ∈ sep ∨ ∃ part ∈ parts, a ∈ part := by
  induction parts with
  | nil => simp at h
  | cons part parts ih =>
      cases parts with
      | nil =>
          rw [List.intercalate_singleton] at h
          exact .inr ⟨part, List.mem_cons_self, h⟩
      | cons part' parts =>
          rw [List.intercalate_cons_cons, List.mem_append, List.mem_append] at h
          rcases h with (h | h) | h
          · exact .inr ⟨part, List.mem_cons_self, h⟩
          · exact .inl h
          · exact (ih h).imp_right fun ⟨p, hp, ha⟩ => ⟨p, List.mem_cons_of_mem _ hp, ha⟩

section

variable {f : String} {names : List String} (hf : IsField f)
  (hnames : ∀ name ∈ names, isName name = true)

include hf hnames

/-- A field with names behind it is one word. -/
theorem isLexeme_text :
    IsLexeme .capture (Target.text ⟨f, names⟩).toList (.identifier (Target.text ⟨f, names⟩)) := by
  obtain ⟨c, cs, hcs⟩ :=
    List.exists_cons_of_ne_nil (mt String.toList_eq_nil_iff.1 hf.ne_empty)
  obtain ⟨-, hfield, hhead⟩ := hf
  rw [hcs] at hfield hhead
  have hlist : (Target.text ⟨f, names⟩).toList =
      c :: ['.'].intercalate (cs :: names.map String.toList) := by
    rw [Target.text, String.toList_intercalate, List.map_cons, hcs]
    exact List.intercalate_cons_cons_left
  refine isLexeme_identifier (by rw [← hlist, String.ofList_toList]) ?_ fun d hd => ?_
  · -- The word begins as the field does.
    have hc := hfield c List.mem_cons_self
    have hmark : c ≠ '?' := fun heq => hhead (congrArg some heq)
    simp only [List.mem_cons, not_or] at hc ⊢
    simp [hc, hmark]
  · rcases mem_of_mem_intercalate hd with hdot | ⟨part, hpart, hmem⟩
    · obtain rfl := List.mem_singleton.1 hdot
      decide
    · rcases List.mem_cons.1 hpart with rfl | hpart
      · exact fun hd => hfield d (List.mem_cons_of_mem _ hmem) (List.mem_append_left ['.'] hd)
      · obtain ⟨name, hname, rfl⟩ := List.mem_map.1 hpart
        have hnone := (ne_empty_and_notMem_delimiters_of_isName (hnames name hname)).2 d hmem
        exact fun hd => hnone (List.mem_append_left ['.', '?'] hd)

/-- It is read as the field and the names. -/
theorem isTarget_text : IsTarget (Target.text ⟨f, names⟩) ⟨f, names⟩ := by
  refine isTarget_iff.2 ⟨rfl, List.forall_mem_cons.2 ⟨⟨hf.ne_empty, fun hdot => ?_⟩,
    fun name hname => ?_⟩⟩
  · exact hf.notMem '.' hdot (by simp)
  · obtain ⟨hne, hnone⟩ := ne_empty_and_notMem_delimiters_of_isName (hnames name hname)
    exact ⟨hne, fun hdot => hnone '.' hdot (by simp [delimiters])⟩

end

/-- **Every filter that can be registered can be called.** A field with any valid names behind it
is the target of a rule, and the rule has the field and exactly these names as its filters. In
general, a text is a target if and only if none of its parts between dots is empty, which is the
only fault there is; it is the target that is written like that, and one whose field and filters
are not empty and have no dots. -/
theorem filters_callable [Diagnostics] :
    (∃ selector, Css.Selector.read? "p" = some selector ∧
      ∀ (f : String) (names : List String), IsField f →
        (∀ name ∈ names, isName name = true) →
        compile ("p (text " ++ ".".intercalate (f :: names) ++ ")") =
          .ok ⟨[.mk ⟨"p", selector, false, [⟨.text, none, [⟨f, names⟩]⟩]⟩ []], .empty⟩) ∧
    ∀ text : String,
      ((∃ t, Target.parse text = .ok t) ↔ [] ∉ text.toList.splitOn '.') ∧
      (∀ fault, Target.parse text = .error fault ↔
        [] ∈ text.toList.splitOn '.' ∧ fault = .emptySegment text) ∧
      ∀ t, Target.parse text = .ok t ↔
        ".".intercalate (t.field :: t.filters) = text ∧
          ∀ s ∈ t.field :: t.filters, s ≠ "" ∧ '.' ∉ s.toList := by
  refine ⟨?_, fun text => ⟨exists_parse_iff, fun _ => parse_eq_error_iff, fun t => ?_⟩⟩
  · have hs : IsLexeme .line "p".toList (.selector "p") :=
      isLexeme_selector (c := 'p') (t := []) rfl (by simp) (by simp)
    have hk : IsLexeme .capture "text".toList (.identifier "text") :=
      isLexeme_identifier (c := 't') (t := ['e', 'x', 't']) rfl (by simp) (by simp)
    have hkey : Attribute.ofKey "text" = .text := by decide +kernel
    have hread : (Css.Selector.read? "p").isSome = true := by decide +kernel
    obtain ⟨selector, hread⟩ := Option.isSome_iff_exists.1 hread
    refine ⟨selector, hread, fun f names hf hnames => ?_⟩
    rw [← hkey]
    exact compile_attributeRule hs hread hk (isLexeme_text hf hnames) (isTarget_text hf hnames)
  · rw [parse_eq_ok_iff, isTarget_iff]
    rfl

/-- The theorem at a field that ends with a question mark and at two names, of which one begins with
an underscore and ends with a numeral. -/
theorem filters_callable_price :
    IsField "Price?" ∧ (∀ name ∈ ["_v2", "strip"], isName name = true) ∧
      ∃ selector, compile "p (text Price?._v2.strip)" =
        .ok ⟨[.mk ⟨"p", selector, false, [⟨.text, none, [⟨"Price?", ["_v2", "strip"]⟩]⟩]⟩ []],
          .empty⟩ := by
  have hf : IsField "Price?" := ⟨by simp, by simp, by simp⟩
  have hnames : ∀ name ∈ ["_v2", "strip"], isName name = true :=
    List.forall_mem_cons.2 ⟨by decide +kernel, List.forall_mem_singleton.2 (by decide +kernel)⟩
  have hsource : "p (text " ++ ".".intercalate ["Price?", "_v2", "strip"] ++ ")" =
      "p (text Price?._v2.strip)" := by decide +kernel
  obtain ⟨⟨selector, -, hcompile⟩, -⟩ := filters_callable
  have h := hcompile "Price?" ["_v2", "strip"] hf hnames
  rw [hsource] at h
  exact ⟨hf, hnames, selector, h⟩

end Harvest.Pattern
