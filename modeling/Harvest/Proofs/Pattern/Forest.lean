import Harvest.Proofs.Pattern.Line
import Harvest.Proofs.Pattern.Nesting

/-!
# Forests in Preorder

A forest is determined by its headings and the positions of the parents, both in preorder: the
rules below a rule are those that follow it and have a parent at its position or later. So
the rules that lines make are determined by the headings and the depths of the lines, and
lines that make rules may be put one after the other.

## Main results

* `Rule.eq_of_preorder`: two forests with the same preorder are the same.
* `arrange_eq_ok_iff`: which rules lines make.
* `arrange_append`: lines after other lines.
* `arrange_congr`: what the rules depend on.
-/

namespace Harvest.Pattern

/-- Two lists that begin with entries of a kind and go on, if at all, with one that is not of
the kind, begin and go on with the same entries. -/
theorem append_inj_of_head {α : Type} {P : α → Prop} {as bs as' bs' : List α}
    (has : ∀ a ∈ as, P a) (hbs : ∀ b, bs.head? = some b → ¬ P b) (has' : ∀ a ∈ as', P a)
    (hbs' : ∀ b, bs'.head? = some b → ¬ P b) (h : as ++ bs = as' ++ bs') :
    as = as' ∧ bs = bs' := by
  induction as generalizing as' with
  | nil =>
      cases as' with
      | nil => exact ⟨rfl, h⟩
      | cons a as' =>
          obtain rfl : bs = a :: as' ++ bs' := h
          exact absurd (has' a List.mem_cons_self) (hbs a rfl)
  | cons a as ih =>
      obtain ⟨ha, has⟩ := List.forall_mem_cons.1 has
      cases as' with
      | nil =>
          obtain rfl : a :: as ++ bs = bs' := h
          exact absurd ha (hbs' a rfl)
      | cons a' as' =>
          obtain ⟨rfl, htail⟩ := List.cons.inj h
          obtain ⟨rfl, rfl⟩ := ih has (List.forall_mem_cons.1 has').2 htail
          exact ⟨rfl, rfl⟩

namespace Rule

/-- A position that is there and not before `start`. -/
def IsFrom (start : Nat) (parent : Option Nat) : Prop :=
  ∃ p, parent = some p ∧ start ≤ p

mutual

/-- The parents of a rule and of the rules below it are not before the parent of the rule. -/
theorem isFrom_of_mem_parents {from_ : Nat} : ∀ (r : Rule) {parent : Option Nat} {start : Nat},
    IsFrom from_ parent → from_ ≤ start → ∀ p ∈ r.parents parent start, IsFrom from_ p
  | .mk heading children, parent, start, hparent, hstart => by
      rw [parents]
      exact List.forall_mem_cons.2 ⟨hparent,
        isFrom_of_mem_parentsOfList children ⟨start, rfl, hstart⟩ (Nat.le_succ_of_le hstart)⟩

/-- The parents of rules and of the rules below them are not before the parent of the rules. -/
theorem isFrom_of_mem_parentsOfList {from_ : Nat} :
    ∀ (rs : List Rule) {parent : Option Nat} {start : Nat},
    IsFrom from_ parent → from_ ≤ start → ∀ p ∈ parentsOfList parent start rs, IsFrom from_ p
  | [], _, _, _, _ => by
      rw [parentsOfList_nil]
      exact List.forall_mem_nil _
  | r :: rs, parent, start, hparent, hstart => by
      rw [parentsOfList]
      intro p hp
      rcases List.mem_append.1 hp with hp | hp
      · exact isFrom_of_mem_parents r hparent hstart p hp
      · exact isFrom_of_mem_parentsOfList rs hparent (Nat.le_add_right_of_le hstart) p hp

end

mutual

/-- Every rule has a heading and a parent. -/
theorem length_parents : ∀ (r : Rule) (parent : Option Nat) (start : Nat),
    (r.parents parent start).length = r.headings.length
  | .mk heading children, parent, start => by
      rw [parents, headings, List.length_cons, List.length_cons, length_parentsOfList]

theorem length_parentsOfList : ∀ (rs : List Rule) (parent : Option Nat) (start : Nat),
    (parentsOfList parent start rs).length = (headingsOfList rs).length
  | [], _, _ => by rw [parentsOfList_nil, headingsOfList_nil]; rfl
  | r :: rs, parent, start => by
      rw [parentsOfList, headingsOfList, List.length_append, List.length_append, length_parents,
        length_parentsOfList]

end

/-- The parents of rules begin with the parent of the first. -/
theorem eq_of_head?_parentsOfList {parent p : Option Nat} {start : Nat} {rs : List Rule}
    (h : (parentsOfList parent start rs).head? = some p) : p = parent := by
  cases rs with
  | nil => rw [parentsOfList_nil] at h; cases h
  | cons r rs =>
      obtain ⟨heading, children⟩ := r
      rw [parentsOfList, parents] at h
      exact (Option.some.inj h).symm

theorem headingsOfList_mk_cons (heading : Heading) (children rs : List Rule) :
    headingsOfList (.mk heading children :: rs) =
      heading :: (headingsOfList children ++ headingsOfList rs) := by
  rw [headingsOfList, headings, List.cons_append]

theorem parentsOfList_mk_cons (parent : Option Nat) (start : Nat) (heading : Heading)
    (children rs : List Rule) :
    parentsOfList parent start (.mk heading children :: rs) =
      parent :: (parentsOfList (some start) (start + 1) children ++
        parentsOfList parent (start + ((headingsOfList children).length + 1)) rs) := by
  rw [parentsOfList, parents, headings, List.cons_append, List.length_cons]

/-- **Preorder.** Two forests with the same headings and the same parents in preorder are the
same, if they lie below a rule before them. -/
theorem eq_of_preorder : ∀ {rs rs' : List Rule} {parent : Option Nat} {start : Nat},
    ¬ IsFrom start parent → headingsOfList rs = headingsOfList rs' →
    parentsOfList parent start rs = parentsOfList parent start rs' → rs = rs'
  | [], [], _, _, _, _, _ => rfl
  | [], .mk heading children :: rs', _, _, _, hheadings, _ => by
      rw [headingsOfList_nil, headingsOfList_mk_cons] at hheadings
      cases hheadings
  | .mk heading children :: rs, [], _, _, _, hheadings, _ => by
      rw [headingsOfList_nil, headingsOfList_mk_cons] at hheadings
      cases hheadings
  | .mk heading children :: rs, .mk heading' children' :: rs', parent, start, hparent,
      hheadings, hparents => by
      rw [headingsOfList_mk_cons, headingsOfList_mk_cons] at hheadings
      rw [parentsOfList_mk_cons, parentsOfList_mk_cons] at hparents
      obtain ⟨rfl, hsame⟩ := List.cons.inj hheadings
      obtain ⟨-, hsame'⟩ := List.cons.inj hparents
      -- The rules below the first one are those whose parents are not before it.
      have hkind : ∀ (children : List Rule),
          ∀ p ∈ parentsOfList (some start) (start + 1) children, IsFrom start p :=
        fun children => isFrom_of_mem_parentsOfList children ⟨start, rfl, Nat.le_refl _⟩
          (Nat.le_succ _)
      have hnot : ∀ {next : Nat} {rs : List Rule} (p : Option Nat),
          (parentsOfList parent next rs).head? = some p → ¬ IsFrom start p :=
        fun p hp => eq_of_head?_parentsOfList hp ▸ hparent
      obtain ⟨hbelow, hafter⟩ :=
        append_inj_of_head (hkind children) hnot (hkind children') hnot hsame'
      have hlength : (headingsOfList children).length = (headingsOfList children').length := by
        rw [← length_parentsOfList, ← length_parentsOfList, hbelow]
      obtain ⟨hchildren, hrest⟩ := List.append_inj hsame hlength
      rw [← hlength] at hafter
      have hself : ¬ IsFrom (start + 1) (some start) := by
        rintro ⟨p, hp, hle⟩
        obtain rfl := Option.some.inj hp
        exact Nat.not_succ_le_self start hle
      have hlater : ¬ IsFrom (start + ((headingsOfList children).length + 1)) parent := by
        rintro ⟨p, hp, hle⟩
        exact hparent ⟨p, hp, Nat.le_of_add_right_le hle⟩
      rw [eq_of_preorder hself hchildren hbelow, eq_of_preorder hlater hrest hafter]

end Rule

/-- **The rules that lines make** are those with the headings of the lines, in order, each of
them below the nearest line before it that is less deep. -/
theorem arrange_eq_ok_iff {lines : List Line} {rules : List Rule} :
    arrange lines = .ok rules ↔
      (∀ l, lines.head? = some l → l.depth = 0) ∧
      Rule.headingsOfList rules = lines.map Line.heading ∧
      Rule.parentsOfList none 0 rules = nearestFrom [] (lines.map Line.depth) := by
  constructor
  · intro h
    exact ⟨exists_arrange_iff.1 ⟨rules, h⟩, preorder_of_arrange h []⟩
  · rintro ⟨hhead, hheadings, hparents⟩
    obtain ⟨rules', h⟩ := exists_arrange_iff.2 hhead
    obtain ⟨hheadings', hparents'⟩ := preorder_of_arrange h []
    have htop : ¬ Rule.IsFrom 0 none := nofun
    rw [h, Rule.eq_of_preorder htop (hheadings'.trans hheadings.symm)
      (hparents'.trans hparents.symm)]

/-- **Lines after other lines.** If both make rules, together they make the rules of both. -/
theorem arrange_append {lines lines' : List Line} {rules rules' : List Rule}
    (h : arrange lines = .ok rules) (h' : arrange lines' = .ok rules') :
    arrange (lines ++ lines') = .ok (rules ++ rules') := by
  obtain ⟨hhead, hheadings, hparents⟩ := arrange_eq_ok_iff.1 h
  have hhead' := exists_arrange_iff.1 ⟨rules', h'⟩
  obtain ⟨hheadings', hparents'⟩ :=
    preorder_of_arrange h' (lines.map Line.depth).reverse
  refine arrange_eq_ok_iff.2 ⟨?_, ?_, ?_⟩
  · intro l hl
    rw [List.head?_append] at hl
    rcases Option.or_eq_some_iff.1 hl with hl | ⟨-, hl⟩
    · exact hhead l hl
    · exact hhead' l hl
  · rw [Rule.headingsOfList_append, hheadings, hheadings', List.map_append]
  · rw [List.length_reverse, List.length_map] at hparents'
    rw [Rule.parentsOfList_append, hparents, hheadings, List.length_map, Nat.zero_add,
      hparents', List.map_append, nearestFrom_append, List.append_nil]

/-- The rules that lines make depend on their depths and headings only. -/
theorem arrange_congr {lines lines' : List Line}
    (hdepths : lines'.map Line.depth = lines.map Line.depth)
    (hheadings : lines'.map Line.heading = lines.map Line.heading) {rules : List Rule}
    (h : arrange lines = .ok rules) : arrange lines' = .ok rules := by
  obtain ⟨hhead, hheadings', hparents⟩ := arrange_eq_ok_iff.1 h
  refine arrange_eq_ok_iff.2
    ⟨fun l hl => ?_, hheadings'.trans hheadings.symm, hdepths ▸ hparents⟩
  have hdepth : (lines.map Line.depth).head? = some l.depth := by
    rw [← hdepths, List.head?_map, hl]
    rfl
  rw [List.head?_map] at hdepth
  obtain ⟨l', hl', hsame⟩ := Option.map_eq_some_iff.1 hdepth
  rw [← hsame]
  exact hhead l' hl'

/-- Where lines stand makes no difference to the rules that they make. -/
theorem arrange_further (n : Nat) {lines : List Line} {rules : List Rule}
    (h : arrange lines = .ok rules) : arrange (lines.map (Line.further n)) = .ok rules :=
  arrange_congr (by rw [List.map_map]; rfl) (by rw [List.map_map]; rfl) h

end Harvest.Pattern
