import Mathlib.Data.List.Infix
import Mathlib.Data.List.TakeWhile
import Harvest.Filter.Builtin

/-!
# Replacing Tags

A text is *cut at its tags* by looking for the first one, which ends at the first `>` after it,
and then for the first one in what is left. There is one way to do that, and the filters that
replace tags put the same pieces together again, one with nothing and one with a space between
them.

Taking a part out of a text can join what stands around it to something new, but not to a tag. A
`<` that is left before a tag has a `>` right behind it: otherwise it would have begun a tag
itself, which ends with that one at the latest. This `>` is left too, and a `<` that no tag
follows has nothing new behind it. So no tags are left to replace.

## Main results

* `exists_cutAtTags`, `CutAtTags.unique`: every text is cut at its tags in one way.
* `CutAtTags.replaceTags_eq_join`: replacing tags puts the pieces together.
* `CutAtTags.tagFree_join`: no new tag comes of it.
* `tag_filters`: the filters that replace tags.
-/

namespace Harvest.Filter

/-! ### Tags -/

/-- A `<`, at least one character other than `>`, and a `>`. -/
def IsTag (t : List Char) : Prop :=
  ∃ body, body ≠ [] ∧ '>' ∉ body ∧ t = '<' :: (body ++ ['>'])

/-- No part of a text is a tag. -/
def TagFree (cs : List Char) : Prop :=
  ∀ t, IsTag t → ¬ t <:+: cs

/-- After a `<`, a tag goes on to the first `>`, unless that comes at once or not at all. -/
theorem afterTag?_eq_some_iff {cs rest : List Char} :
    afterTag? cs = some rest ↔ ∃ body, body ≠ [] ∧ '>' ∉ body ∧ body ++ '>' :: rest = cs := by
  constructor
  · intro h
    match cs with
    | [] => cases h
    | c :: cs =>
        by_cases hc : c = '>'
        · subst hc
          cases h
        rw [afterTag?.eq_3 c cs hc] at h
        have hhead := List.head?_dropWhile_not (· != '>') cs
        have hsplit := List.takeWhile_append_dropWhile (p := (· != '>')) (l := cs)
        cases hdrop : cs.dropWhile (· != '>') with
        | nil =>
            rw [hdrop] at h
            cases h
        | cons d rest' =>
            rw [hdrop] at h hhead hsplit
            obtain rfl := Option.some.inj h
            obtain rfl : d = '>' := by simpa using hhead
            refine ⟨c :: cs.takeWhile (· != '>'), List.cons_ne_nil _ _, ?_, congrArg _ hsplit⟩
            rintro (_ | ⟨_, hmem⟩)
            · exact hc rfl
            · simpa using List.mem_takeWhile_imp hmem
  · rintro ⟨body, hne, hnone, rfl⟩
    obtain ⟨c, body, rfl⟩ := List.exists_cons_of_ne_nil hne
    obtain ⟨hc, hbody⟩ := List.ne_and_not_mem_of_not_mem_cons hnone
    have hdrop : (body ++ '>' :: rest).dropWhile (· != '>') = '>' :: rest := by
      rw [List.dropWhile_append_of_pos, List.dropWhile_cons_of_neg (by decide)]
      intro d hd
      simpa using fun heq : d = '>' => hbody (heq ▸ hd)
    rw [List.cons_append, afterTag?.eq_3 _ _ (Ne.symm hc), hdrop]

/-- There is a tag unless a `>` comes at once or none comes at all. -/
theorem afterTag?_cons_eq_none_iff {c : Char} {cs : List Char} :
    afterTag? (c :: cs) = none ↔ c = '>' ∨ '>' ∉ cs := by
  constructor
  · intro h
    by_contra hnot
    obtain ⟨hc, hmem⟩ := not_or.1 hnot
    rw [afterTag?.eq_3 c cs hc] at h
    cases hdrop : cs.dropWhile (· != '>') with
    | nil =>
        have hall := List.dropWhile_eq_nil_iff.1 hdrop
        exact hmem fun hin => absurd (hall '>' hin) (by decide)
    | cons d rest =>
        rw [hdrop] at h
        cases h
  · rintro (rfl | hnone)
    · rfl
    · refine Option.eq_none_iff_forall_ne_some.2 fun rest h => ?_
      obtain ⟨body, hne, -, heq⟩ := afterTag?_eq_some_iff.1 h
      obtain ⟨d, body, rfl⟩ := List.exists_cons_of_ne_nil hne
      obtain ⟨-, rfl⟩ := List.cons.inj heq
      exact hnone (List.mem_append_right _ List.mem_cons_self)

/-- A tag stands at the start of a text if it begins with a `<` and goes on. -/
theorem exists_isTag_iff {c : Char} {cs rest : List Char} :
    (∃ t, IsTag t ∧ t ++ rest = c :: cs) ↔ c = '<' ∧ afterTag? cs = some rest := by
  rw [afterTag?_eq_some_iff]
  constructor
  · rintro ⟨_, ⟨body, hne, hnone, rfl⟩, heq⟩
    obtain ⟨rfl, htail⟩ := List.cons.inj heq
    exact ⟨rfl, body, hne, hnone, by rw [← htail]; simp⟩
  · rintro ⟨rfl, body, hne, hnone, rfl⟩
    exact ⟨_, ⟨body, hne, hnone, rfl⟩, by simp⟩

/-- One tag at most stands at the start of a text. -/
theorem IsTag.unique {t t' rest rest' : List Char} (h : IsTag t) (h' : IsTag t')
    (heq : t ++ rest = t' ++ rest') : t = t' ∧ rest = rest' := by
  obtain ⟨c, cs, htext⟩ : ∃ c cs, t ++ rest = c :: cs := by
    obtain ⟨body, -, -, rfl⟩ := h
    exact ⟨_, _, rfl⟩
  have hafter := (exists_isTag_iff.1 ⟨t, h, htext⟩).2
  have hafter' := (exists_isTag_iff.1 ⟨t', h', heq.symm.trans htext⟩).2
  obtain rfl := Option.some.inj (hafter.symm.trans hafter')
  exact ⟨List.append_cancel_right heq, rfl⟩

theorem tagFree_nil : TagFree [] := by
  rintro _ ⟨body, -, -, rfl⟩ h
  exact List.cons_ne_nil _ _ (List.infix_nil.1 h)

/-- A tag in a text stands at its start or further on. -/
theorem tagFree_cons {c : Char} {cs : List Char} :
    TagFree (c :: cs) ↔ (c = '<' → afterTag? cs = none) ∧ TagFree cs := by
  have hstart : (∀ t, IsTag t → ¬ t <+: c :: cs) ↔ (c = '<' → afterTag? cs = none) := by
    constructor
    · intro h hc
      refine Option.eq_none_iff_forall_ne_some.2 fun rest hrest => ?_
      obtain ⟨t, ht, heq⟩ := exists_isTag_iff.2 ⟨hc, hrest⟩
      exact h t ht ⟨rest, heq⟩
    · rintro h t ht ⟨rest, heq⟩
      obtain ⟨hc, hrest⟩ := exists_isTag_iff.1 ⟨t, ht, heq⟩
      rw [h hc] at hrest
      cases hrest
  rw [← hstart]
  simp only [TagFree, List.infix_cons_iff, not_or, imp_and, forall_and]

/-! ### Texts cut at their tags -/

/-- A text cut at its tags, which are found from left to right: each time the first one in what is
left of the text. The pieces are the tags, each with what stands before it, and what is left after
the last one. -/
inductive CutAtTags : List Char → List (List Char × List Char) → List Char → Prop
  /-- No tag is left. -/
  | last {cs : List Char} (h : TagFree cs) : CutAtTags cs [] cs
  /-- No tag begins before this one. -/
  | tag {gap tag rest last : List Char} {pieces : List (List Char × List Char)}
      (htag : IsTag tag)
      (hfirst : ∀ before t after, before ++ (t ++ after) = gap ++ (tag ++ rest) → IsTag t →
        gap.length ≤ before.length)
      (h : CutAtTags rest pieces last) :
      CutAtTags (gap ++ (tag ++ rest)) ((gap, tag) :: pieces) last

/-- The pieces of a text put together, with something in the place of each tag. -/
def join (replace : List Char → List Char) (pieces : List (List Char × List Char))
    (last : List Char) : List Char :=
  (pieces.flatMap fun piece => piece.1 ++ replace piece.2) ++ last

theorem join_cons (replace : List Char → List Char) (gap tag : List Char)
    (pieces : List (List Char × List Char)) (last : List Char) :
    join replace ((gap, tag) :: pieces) last =
      gap ++ (replace tag ++ join replace pieces last) := by
  simp [join]

/-- With the tags in their places, the pieces are the text. -/
theorem CutAtTags.join_id {cs last : List Char} {pieces : List (List Char × List Char)}
    (h : CutAtTags cs pieces last) : join id pieces last = cs := by
  induction h with
  | last => rfl
  | tag _ _ _ ih => rw [join_cons, ih]; rfl

/-- **Every text** is cut at its tags. -/
theorem exists_cutAtTags : ∀ cs : List Char, ∃ pieces last, CutAtTags cs pieces last
  | [] => ⟨[], [], .last tagFree_nil⟩
  | c :: cs => by
      by_cases hstart : ∃ rest t, IsTag t ∧ t ++ rest = c :: cs
      · obtain ⟨rest, t, ht, heq⟩ := hstart
        have hshorter : rest.length < cs.length + 1 := by
          obtain ⟨body, -, -, rfl⟩ := ht
          have hlength := congrArg List.length heq
          simp only [List.length_append, List.length_cons] at hlength
          omega
        obtain ⟨pieces, last, h⟩ := exists_cutAtTags rest
        rw [← heq]
        have hcut : CutAtTags ([] ++ (t ++ rest)) (([], t) :: pieces) last :=
          .tag ht (fun _ _ _ _ _ => Nat.zero_le _) h
        exact ⟨_, _, hcut⟩
      · have hnone : c = '<' → afterTag? cs = none := by
          intro hc
          refine Option.eq_none_iff_forall_ne_some.2 fun rest hrest => hstart ⟨rest, ?_⟩
          exact exists_isTag_iff.2 ⟨hc, hrest⟩
        obtain ⟨pieces, last, h⟩ := exists_cutAtTags cs
        cases h with
        | last h => exact ⟨_, _, .last (tagFree_cons.2 ⟨hnone, h⟩)⟩
        | @tag gap tag rest _ pieces htag hfirst h =>
            have hcut : CutAtTags (c :: gap ++ (tag ++ rest)) ((c :: gap, tag) :: pieces) last := by
              refine .tag htag (fun before t after heq ht => ?_) h
              cases before with
              | nil => exact absurd ⟨after, t, ht, heq⟩ hstart
              | cons d before =>
                  exact Nat.succ_le_succ (hfirst before t after (List.cons.inj heq).2 ht)
            exact ⟨_, _, hcut⟩
termination_by cs => cs.length

/-- **A text is cut at its tags** in one way only. -/
theorem CutAtTags.unique {cs last last' : List Char} {pieces pieces' : List (List Char × List Char)}
    (h : CutAtTags cs pieces last) (h' : CutAtTags cs pieces' last') :
    pieces = pieces' ∧ last = last' := by
  induction h generalizing pieces' last' with
  | last hfree =>
      cases h' with
      | last _ => exact ⟨rfl, rfl⟩
      | tag htag _ _ => exact absurd ⟨_, _, List.append_assoc _ _ _⟩ (hfree _ htag)
  | @tag gap tag rest last pieces htag hfirst _ ih =>
      generalize htext : gap ++ (tag ++ rest) = cs at h'
      cases h' with
      | last hfree =>
          subst htext
          exact absurd ⟨_, _, List.append_assoc _ _ _⟩ (hfree _ htag)
      | @tag gap' tag' rest' _ pieces' htag' hfirst' h' =>
          have hlength : gap.length = gap'.length :=
            Nat.le_antisymm (hfirst gap' tag' rest' htext.symm htag')
              (hfirst' gap tag rest htext htag)
          obtain ⟨rfl, hrest⟩ := List.append_inj htext hlength
          obtain ⟨rfl, rfl⟩ := htag.unique htag' hrest
          obtain ⟨rfl, rfl⟩ := ih h'
          exact ⟨rfl, rfl⟩

/-! ### What replacing tags gives -/

/-- Characters at which no tag begins are kept. -/
theorem replaceTagsFrom_gap (fill : List Char) {gap cs : List Char}
    (h : ∀ a b, gap = a ++ '<' :: b → afterTag? (b ++ cs) = none) (done : List Char) :
    replaceTagsFrom fill 0 (gap ++ cs) done =
      replaceTagsFrom fill 0 cs (gap.reverse ++ done) := by
  induction gap generalizing done with
  | nil => rfl
  | cons c gap ih =>
      have hrest : ∀ a b, gap = a ++ '<' :: b → afterTag? (b ++ cs) = none :=
        fun a b heq => h (c :: a) b (congrArg _ heq)
      have hkept : replaceTagsFrom fill 0 (c :: (gap ++ cs)) done =
          replaceTagsFrom fill 0 (gap ++ cs) (c :: done) := by
        rw [replaceTagsFrom]
        by_cases hc : c = '<'
        · subst hc
          rw [if_pos rfl, h [] gap rfl]
        · rw [if_neg hc]
      rw [List.cons_append, hkept, ih hrest, List.reverse_cons, List.append_assoc]
      rfl

/-- The characters of a tag that is replaced are passed over. -/
theorem replaceTagsFrom_skip (fill tag rest done : List Char) :
    replaceTagsFrom fill tag.length (tag ++ rest) done = replaceTagsFrom fill 0 rest done := by
  induction tag with
  | nil => rfl
  | cons c tag ih => rw [List.cons_append, List.length_cons, replaceTagsFrom, ih]

/-- A tag is replaced. -/
theorem replaceTagsFrom_tag (fill : List Char) {tag : List Char} (h : IsTag tag)
    (rest done : List Char) :
    replaceTagsFrom fill 0 (tag ++ rest) done =
      replaceTagsFrom fill 0 rest (fill.reverse ++ done) := by
  obtain ⟨body, hne, hnone, rfl⟩ := h
  have hafter : afterTag? (body ++ ['>'] ++ rest) = some rest :=
    afterTag?_eq_some_iff.2 ⟨body, hne, hnone, by simp⟩
  have hlength : (body ++ ['>'] ++ rest).length - rest.length = (body ++ ['>']).length := by
    rw [List.length_append]
    omega
  rw [List.cons_append, replaceTagsFrom, if_pos rfl, hafter]
  dsimp only
  rw [hlength, replaceTagsFrom_skip]

/-- No tag begins in what stands before the first one. -/
theorem afterTag?_eq_none_of_first {gap tag rest : List Char}
    (hfirst : ∀ before t after, before ++ (t ++ after) = gap ++ (tag ++ rest) → IsTag t →
      gap.length ≤ before.length) (a b : List Char) (h : gap = a ++ '<' :: b) :
    afterTag? (b ++ (tag ++ rest)) = none := by
  refine Option.eq_none_iff_forall_ne_some.2 fun after hafter => ?_
  obtain ⟨t, ht, heq⟩ := exists_isTag_iff.2 ⟨rfl, hafter⟩
  have hle := hfirst a t after (by rw [heq, h]; simp) ht
  rw [h, List.length_append, List.length_cons] at hle
  omega

/-- Replacing tags goes through the pieces of a text. -/
theorem CutAtTags.replaceTagsFrom_eq {cs last : List Char}
    {pieces : List (List Char × List Char)} (h : CutAtTags cs pieces last)
    (fill done : List Char) :
    replaceTagsFrom fill 0 cs done = done.reverse ++ join (fun _ => fill) pieces last := by
  induction h generalizing done with
  | @last cs hfree =>
      have hgap : ∀ a b, cs = a ++ '<' :: b → afterTag? (b ++ []) = none := by
        rintro a b rfl
        refine Option.eq_none_iff_forall_ne_some.2 fun after hafter => ?_
        obtain ⟨t, ht, heq⟩ := exists_isTag_iff.2 ⟨rfl, hafter⟩
        exact hfree t ht ⟨a, after, by rw [List.append_assoc, heq, List.append_nil]⟩
      have hkept := replaceTagsFrom_gap fill hgap done
      rw [List.append_nil] at hkept
      rw [hkept, replaceTagsFrom]
      simp [join]
  | tag htag hfirst _ ih =>
      rw [replaceTagsFrom_gap fill (afterTag?_eq_none_of_first hfirst),
        replaceTagsFrom_tag fill htag, ih, join_cons]
      simp

/-- **Replacing tags** puts the pieces of a text together. -/
theorem CutAtTags.replaceTags_eq_join {cs last : List Char}
    {pieces : List (List Char × List Char)} (h : CutAtTags cs pieces last) (fill : List Char) :
    replaceTags fill cs = join (fun _ => fill) pieces last :=
  h.replaceTagsFrom_eq fill []

/-- A text without tags stays as it is. -/
theorem TagFree.replaceTags_eq {cs : List Char} (h : TagFree cs) (fill : List Char) :
    replaceTags fill cs = cs :=
  (CutAtTags.last h).replaceTags_eq_join fill

/-! ### No new tags -/

/-- Every `<` of a text has a `>` right behind it. -/
def Inert (cs : List Char) : Prop :=
  ∀ a b, cs = a ++ '<' :: b → b.head? = some '>'

/-- What stands before a tag, and before no other, is inert: another `<` would have begun a tag
that ends with this one at the latest. -/
theorem inert_of_first {gap tag rest : List Char} (htag : IsTag tag)
    (hfirst : ∀ before t after, before ++ (t ++ after) = gap ++ (tag ++ rest) → IsTag t →
      gap.length ≤ before.length) : Inert gap := by
  intro a b h
  have hnone := afterTag?_eq_none_of_first hfirst a b h
  obtain ⟨body, -, -, rfl⟩ := htag
  cases b with
  | nil =>
      rcases afterTag?_cons_eq_none_iff.1 hnone with hc | hmem
      · exact absurd hc (by decide)
      · simp at hmem
  | cons c b =>
      rcases afterTag?_cons_eq_none_iff.1 hnone with rfl | hmem
      · rfl
      · simp at hmem

theorem Inert.tagFree_append {front cs : List Char} (hfront : Inert front) (h : TagFree cs) :
    TagFree (front ++ cs) := by
  induction front with
  | nil => exact h
  | cons c front ih =>
      refine tagFree_cons.2 ⟨fun hc => ?_, ih fun a b heq => hfront (c :: a) b (congrArg _ heq)⟩
      obtain ⟨front, rfl⟩ := List.head?_eq_some_iff.1 (hfront [] front (by rw [hc]; rfl))
      rfl

/-- **No new tag** comes of replacing tags by something without a `<`. -/
theorem CutAtTags.tagFree_join {cs last : List Char} {pieces : List (List Char × List Char)}
    (h : CutAtTags cs pieces last) {fill : List Char} (hfill : '<' ∉ fill) :
    TagFree (join (fun _ => fill) pieces last) := by
  have hinert : Inert fill := by
    rintro a b rfl
    exact absurd (List.mem_append_right a List.mem_cons_self) hfill
  induction h with
  | last hfree => exact hfree
  | tag htag hfirst _ ih =>
      rw [join_cons]
      exact (inert_of_first htag hfirst).tagFree_append (hinert.tagFree_append ih)

/-! ### The filters -/

/-- **The filters that replace tags.** There is one way to cut a text at its tags; `notags` puts
the pieces together without the tags, and `tag2space` puts them together with a space in the place
of each. No tag is in what they give, and a second time they change nothing. -/
theorem tag_filters (s : String) :
    ∃ notags tag2space, builtin? "notags" = some notags ∧ builtin? "tag2space" = some tag2space ∧
      (∃ pieces last, CutAtTags s.toList pieces last ∧
        (∀ pieces' last', CutAtTags s.toList pieces' last' → pieces' = pieces ∧ last' = last) ∧
        join id pieces last = s.toList ∧
        (notags s).toList = join (fun _ => []) pieces last ∧
        (tag2space s).toList = join (fun _ => [' ']) pieces last) ∧
      TagFree (notags s).toList ∧ TagFree (tag2space s).toList ∧
      notags (notags s) = notags s ∧ tag2space (tag2space s) = tag2space s := by
  obtain ⟨pieces, last, h⟩ := exists_cutAtTags s.toList
  have hchars : ∀ fill, (onChars (replaceTags fill) s).toList = join (fun _ => fill) pieces last :=
    fun fill => by rw [onChars, String.toList_ofList, h.replaceTags_eq_join]
  have hfree : ∀ {fill}, '<' ∉ fill → TagFree (onChars (replaceTags fill) s).toList :=
    fun hfill => by rw [hchars]; exact h.tagFree_join hfill
  have hagain : ∀ {fill}, '<' ∉ fill → onChars (replaceTags fill) (onChars (replaceTags fill) s) =
      onChars (replaceTags fill) s := by
    intro fill hfill
    conv_lhs => rw [onChars, (hfree hfill).replaceTags_eq, String.ofList_toList]
  refine ⟨onChars (replaceTags []), onChars (replaceTags [' ']), rfl, rfl,
    ⟨pieces, last, h, fun pieces' last' h' => h'.unique h, h.join_id, hchars [], hchars [' ']⟩,
    hfree (by decide), hfree (by decide), hagain (by decide), hagain (by decide)⟩

end Harvest.Filter
