import Mathlib.Tactic.MkIffOfInductiveProp
import Harvest.Proofs.Pattern.Group
import Harvest.Proofs.Pattern.Line

/-!
# Items of a Line

A line holds tabs, question marks, bracket groups and at most one selector, in any order.
`IsLine` says which lines are accepted, and `Becomes` what a line that has begun is after
some items. Reading their tokens one by one comes to that.

## Main results

* `LineDraft.pushAll_eq_ok_iff`: what reading the tokens of items gives.
* `isLine_iff`: a line is accepted if and only if reading it gives something.
* `LineDraft.finish_spec`: what the end of a line makes of its items.
-/

namespace Harvest.Pattern

variable {diagnostics : Diagnostics}

/-- What a line is made of. -/
inductive Item where
  /-- Tabs. -/
  | indent (depth : Nat)
  /-- A question mark. -/
  | mark
  /-- A selector. -/
  | selector (text : String)
  /-- A bracket group. -/
  | group (parts : List Part)

namespace Item

/-- The tokens of an item. -/
def tokens : Item → List Token
  | .indent depth => [.indent depth]
  | .mark => [.questionMark]
  | .selector text => [.selector text]
  | .group parts => .leftBracket :: (parts.map Part.token ++ [.rightBracket])

/-- The tokens of the items of a line. -/
def tokensOf (items : List Item) : List Token :=
  items.flatMap tokens

theorem tokensOf_cons (item : Item) (items : List Item) :
    tokensOf (item :: items) = item.tokens ++ tokensOf items :=
  List.flatMap_cons

/-- The selectors of a line, in order. -/
def selectors : List Item → List String
  | [] => []
  | .selector text :: items => text :: selectors items
  | _ :: items => selectors items

/-- The groups of a line, in order. -/
def groups : List Item → List (List Part)
  | [] => []
  | .group parts :: items => parts :: groups items
  | _ :: items => groups items

/-- Whether an item is or holds a question mark. -/
def isMarked : Item → Bool
  | .mark => true
  | .group parts => parts.any Part.isMark
  | _ => false

/-- The number of tabs at the start of a line. -/
def depth : List Item → Nat
  | .indent depth :: _ => depth
  | _ => 0

end Item

open Item

/-- A text is written as a selector. -/
def IsSelector (text : String) (s : String × Css.Selector) : Prop :=
  s.1 = text ∧ Css.Selector.read? text = some s.2

/-- A line is accepted: it has one selector at most, which can be read, and all its groups
are accepted. -/
structure IsLine (items : List Item) : Prop where
  /-- There is one selector at most. -/
  length_selectors : (selectors items).length ≤ 1
  /-- The selector can be read. -/
  isSelector : ∀ text ∈ selectors items, ∃ selector, Css.Selector.read? text = some selector
  /-- The groups are accepted. -/
  isGroup : ∀ parts ∈ groups items, IsGroup parts

/-- A line with a selector makes a heading. -/
structure MakesHeading (items : List Item) (h : Heading) : Prop where
  /-- The selector is the one of the line. -/
  selectors_eq : selectors items = [h.selectorText]
  /-- It is read as it is written. -/
  read?_eq : Css.Selector.read? h.selectorText = some h.selector
  /-- The heading is optional if a question mark is on the line, in a group or outside. -/
  optional_eq : h.optional = items.any isMarked
  /-- The captures are those of the groups, in order. -/
  captures : List.Forall₂ Makes (groups items) h.captures

namespace LineDraft

/-- What a line that has begun with `d` is after some items. `number` is the line of the first
token of the items. -/
@[mk_iff]
structure Becomes (d : LineDraft) (number : Option Nat) (items : List Item) (d' : LineDraft) :
    Prop where
  /-- The number is that of the first token. -/
  number_eq : d'.number = d.number.or number
  /-- The depth is that of the first item. -/
  depth_eq : d'.depth = if d.number.isNone then Item.depth items else d.depth
  /-- The selector is the only one. -/
  selector : AtMostOne IsSelector d.selector (selectors items) d'.selector
  /-- The line is optional if it was or if a question mark is among the items. -/
  optional_eq : d'.optional = (d.optional || items.any isMarked)
  /-- The groups make the captures that are added. -/
  captures : ∃ captures, List.Forall₂ Makes (groups items) captures ∧
    d'.captures = d.captures ++ captures
  /-- No capture is open. -/
  openCapture_eq : d'.openCapture = none

/-! ### Reading a group -/

/-- A part of a group changes the open capture, and a question mark makes the line optional. -/
theorem push_part_eq_ok_iff {d d' : LineDraft} {n : Nat} (hnumber : d.number = some n)
    {c : CaptureDraft} (hopen : d.openCapture = some c) {p : Part} {line : Nat} :
    d.push p.token line = .ok d' ↔
      ∃ c', c.take p = .ok c' ∧
        d' = { d with optional := d.optional || p.isMark, openCapture := some c' } := by
  obtain ⟨_, depth, selector, optional, captures, _⟩ := d
  obtain rfl : _ = some n := hnumber
  obtain rfl : _ = some c := hopen
  rw [push_eq_ok_iff]
  cases p with
  | mark => simp [Part.token, Part.isMark, add, CaptureDraft.take, eq_comm]
  | word text | literal source =>
      simp only [Part.token, Part.isMark, add, inCapture, map_eq_ok_iff, CaptureDraft.take,
        Option.getD_some, Bool.or_false, @eq_comm _ d']

/-- The parts of a group and the closing bracket add the capture that the group makes. -/
theorem pushAll_parts_eq_ok_iff {d d' : LineDraft} {n : Nat} (hnumber : d.number = some n)
    {c : CaptureDraft} (hopen : d.openCapture = some c) {parts : List Part}
    {tokens : List (Token × Nat)}
    (htokens : tokens.map Prod.fst = parts.map Part.token ++ [.rightBracket]) :
    d.pushAll tokens = .ok d' ↔
      ∃ capture, (c.takeAll parts >>= CaptureDraft.finish) = .ok capture ∧
        d' = { d with
          optional := d.optional || parts.any Part.isMark
          captures := d.captures ++ [capture]
          openCapture := none } := by
  induction parts generalizing d c tokens with
  | nil =>
      obtain ⟨⟨_, line⟩, rfl, rfl⟩ := List.map_eq_singleton_iff.1 htokens
      rw [pushAll_cons, bind_eq_ok_iff]
      simp only [push_eq_ok_iff, add, hopen, map_eq_ok_iff, pushAll_nil]
      constructor
      · rintro ⟨_, ⟨capture, hfinish, rfl⟩, h⟩
        obtain rfl := Except.ok.inj h
        exact ⟨capture, hfinish, by simp [hnumber]⟩
      · rintro ⟨capture, hfinish, rfl⟩
        exact ⟨_, ⟨capture, hfinish, rfl⟩, by simp [hnumber]⟩
  | cons p parts ih =>
      rw [List.map_cons, List.cons_append] at htokens
      obtain ⟨⟨_, line⟩, tokens, rfl, rfl, hrest⟩ := List.map_eq_cons_iff.1 htokens
      rw [pushAll_cons, bind_eq_ok_iff]
      simp only [push_part_eq_ok_iff hnumber hopen]
      constructor
      · rintro ⟨_, ⟨c', htake, rfl⟩, h⟩
        obtain ⟨capture, hfinish, rfl⟩ :=
          (ih (by exact hnumber) (by rfl) hrest).1 h
        refine ⟨capture, ?_, ?_⟩
        · rwa [CaptureDraft.takeAll_cons, htake]
        · rw [List.any_cons, ← Bool.or_assoc]
      · rintro ⟨capture, hfinish, rfl⟩
        rw [CaptureDraft.takeAll_cons, bind_assoc, bind_eq_ok_iff] at hfinish
        obtain ⟨c', htake, hfinish⟩ := hfinish
        refine ⟨_, ⟨c', htake, rfl⟩,
          (ih (by exact hnumber) (by rfl) hrest).2 ⟨capture, hfinish, ?_⟩⟩
        rw [List.any_cons, ← Bool.or_assoc]

/-- **Groups.** The tokens of a group add the capture that the group makes. -/
theorem pushAll_group_eq_ok_iff {d d' : LineDraft} (hopen : d.openCapture = none)
    {parts : List Part} {line : Nat} {inside : List (Token × Nat)}
    (hinside : inside.map Prod.fst = parts.map Part.token ++ [.rightBracket]) :
    d.pushAll ((.leftBracket, line) :: inside) = .ok d' ↔
      ∃ capture, Makes parts capture ∧
        d' = { d with
          number := some (d.number.getD line)
          optional := d.optional || parts.any Part.isMark
          captures := d.captures ++ [capture] } := by
  rw [pushAll_cons, bind_eq_ok_iff]
  simp only [push_eq_ok_iff, add, hopen, Option.isSome_none, Bool.false_eq_true, if_false,
    Except.ok.injEq, exists_eq_left']
  rw [pushAll_parts_eq_ok_iff (by rfl) (by rfl) hinside]
  simp only [CaptureDraft.finish_takeAll_eq_ok_iff]

/-! ### Reading a line -/

/-- A selector is the first one, and it can be read. -/
theorem addSelector_eq_ok_iff {d d' : LineDraft} {text : String} :
    d.addSelector text = .ok d' ↔
      d.selector = none ∧ ∃ s, IsSelector text s ∧ d' = { d with selector := some s } := by
  rw [addSelector]
  cases hselector : d.selector with
  | some s => simp
  | none =>
      cases hread : Css.Selector.read? text with
      | none => simp [IsSelector, hread]
      | some selector =>
          have hmeans : ∀ s, IsSelector text s ↔ s = (text, selector) := by
            rintro ⟨text', selector'⟩
            simp [IsSelector, hread, eq_comm]
          simp [hmeans, eq_comm]

section

variable {d d' : LineDraft} {items : List Item} {line : Nat}

/-- The first token of a line gives the line its number, and later ones keep it. -/
theorem number_or_some (d : LineDraft) (line : Nat) :
    d.number.or (some line) = some (d.number.getD line) := by
  cases d.number <;> rfl

/-- Before the first token the depth is zero. -/
theorem depth_of_not_indent (hdepth : d.number = none → d.depth = 0) :
    (if d.number.isNone then 0 else d.depth) = d.depth := by
  cases hnumber : d.number with
  | none => rw [hdepth hnumber]; rfl
  | some n => rfl

/-- No items leave a line as it is. -/
theorem becomes_nil_iff (hopen : d.openCapture = none)
    (hdepth : d.number = none → d.depth = 0) : d.Becomes none [] d' ↔ d' = d := by
  rw [becomes_iff]
  simp only [selectors, groups, Item.depth, List.any_nil, atMostOne_nil_iff, Option.or_none,
    depth_of_not_indent hdepth, Bool.or_false, List.forall₂_nil_left_iff, exists_eq_left,
    List.append_nil]
  obtain ⟨_, _, _, _, _, _⟩ := d
  obtain ⟨_, _, _, _, _, _⟩ := d'
  obtain rfl : _ = none := hopen
  rw [LineDraft.mk.injEq]

/-- Tabs give a line that has no number yet its depth, and leave others as they are. -/
theorem becomes_indent_iff (number : Option Nat) (depth : Nat) :
    d.Becomes (some line) (.indent depth :: items) d' ↔
      Becomes { d with
        number := some (d.number.getD line)
        depth := if d.number.isNone then depth else d.depth } number items d' := by
  rw [becomes_iff, becomes_iff]
  simp only [selectors, groups, Item.depth, List.any_cons, isMarked, number_or_some,
    Option.some_or, Option.isNone_some, Bool.false_or, Bool.false_eq_true, if_false]

/-- A question mark makes a line optional. -/
theorem becomes_mark_iff (number : Option Nat) (hdepth : d.number = none → d.depth = 0) :
    d.Becomes (some line) (.mark :: items) d' ↔
      Becomes { d with
        number := some (d.number.getD line)
        optional := true } number items d' := by
  rw [becomes_iff, becomes_iff]
  simp only [selectors, groups, Item.depth, List.any_cons, isMarked, number_or_some,
    Option.some_or, Option.isNone_some, Bool.true_or, Bool.or_true, Bool.false_eq_true,
    if_false, depth_of_not_indent hdepth]

/-- A selector is the only one of its line, and one that its reader takes. -/
theorem becomes_selector_iff (number : Option Nat) (hdepth : d.number = none → d.depth = 0)
    (text : String) :
    d.Becomes (some line) (.selector text :: items) d' ↔
      d.selector = none ∧ ∃ s, IsSelector text s ∧
        Becomes { d with
          number := some (d.number.getD line)
          selector := some s } number items d' := by
  simp only [becomes_iff, selectors, groups, Item.depth, List.any_cons, isMarked,
    number_or_some, Option.some_or, Option.isNone_some, Bool.false_or, Bool.false_eq_true,
    if_false, depth_of_not_indent hdepth, atMostOne_cons_iff]
  constructor
  · rintro ⟨hnumber, hdepth', ⟨hnone, s, hs, hselector⟩, h⟩
    exact ⟨hnone, s, hs, hnumber, hdepth', hselector, h⟩
  · rintro ⟨hnone, s, hs, hnumber, hdepth', hselector, h⟩
    exact ⟨hnumber, hdepth', ⟨hnone, s, hs, hselector⟩, h⟩

/-- A group adds the capture that it makes. -/
theorem becomes_group_iff (number : Option Nat) (hdepth : d.number = none → d.depth = 0)
    (parts : List Part) :
    d.Becomes (some line) (.group parts :: items) d' ↔
      ∃ capture, Makes parts capture ∧
        Becomes { d with
          number := some (d.number.getD line)
          optional := d.optional || parts.any Part.isMark
          captures := d.captures ++ [capture] } number items d' := by
  simp only [becomes_iff, selectors, groups, Item.depth, List.any_cons, isMarked,
    number_or_some, Option.some_or, Option.isNone_some, Bool.false_eq_true, if_false,
    depth_of_not_indent hdepth, List.forall₂_cons_left_iff, Bool.or_assoc]
  constructor
  · rintro ⟨hnumber, hdepth', hselector, hoptional,
      ⟨_, ⟨capture, captures, hmakes, hall, rfl⟩, happend⟩, hopen⟩
    refine ⟨capture, hmakes, hnumber, hdepth', hselector, hoptional, ⟨captures, hall, ?_⟩,
      hopen⟩
    rw [happend, List.append_assoc, List.singleton_append]
  · rintro ⟨capture, hmakes, hnumber, hdepth', hselector, hoptional, ⟨captures, hall, happend⟩,
      hopen⟩
    refine ⟨hnumber, hdepth', hselector, hoptional,
      ⟨_, ⟨capture, captures, hmakes, hall, rfl⟩, ?_⟩, hopen⟩
    rw [happend, List.append_assoc, List.singleton_append]

end

/-- **Lines.** Reading the tokens of items comes to what the line becomes. -/
theorem pushAll_eq_ok_iff {d d' : LineDraft} (hopen : d.openCapture = none)
    (hdepth : d.number = none → d.depth = 0) {items : List Item} {tokens : List (Token × Nat)}
    (htokens : tokens.map Prod.fst = tokensOf items) :
    d.pushAll tokens = .ok d' ↔ d.Becomes (tokens.head?.map Prod.snd) items d' := by
  induction items generalizing d tokens with
  | nil =>
      obtain rfl := List.map_eq_nil_iff.1 htokens
      rw [pushAll_nil, List.head?_nil, Option.map_none, becomes_nil_iff hopen hdepth,
        Except.ok.injEq, eq_comm]
  | cons item items ih =>
      rw [tokensOf_cons] at htokens
      cases item with
      | indent depth =>
          obtain ⟨⟨_, line⟩, tokens, rfl, rfl, hrest⟩ := List.map_eq_cons_iff.1 htokens
          rw [pushAll_cons, bind_eq_ok_iff, List.head?_cons, Option.map_some,
            becomes_indent_iff (tokens.head?.map Prod.snd)]
          simp only [push_eq_ok_iff, add, Except.ok.injEq, exists_eq_left']
          rw [← ih (by exact hopen) (by simp) hrest]
          cases d.number <;> rfl
      | mark =>
          obtain ⟨⟨_, line⟩, tokens, rfl, rfl, hrest⟩ := List.map_eq_cons_iff.1 htokens
          rw [pushAll_cons, bind_eq_ok_iff, List.head?_cons, Option.map_some,
            becomes_mark_iff (tokens.head?.map Prod.snd) hdepth]
          simp only [push_eq_ok_iff, add, Except.ok.injEq, exists_eq_left']
          rw [ih (by exact hopen) (by simp) hrest]
      | selector text =>
          obtain ⟨⟨_, line⟩, tokens, rfl, rfl, hrest⟩ := List.map_eq_cons_iff.1 htokens
          rw [pushAll_cons, bind_eq_ok_iff, List.head?_cons, Option.map_some,
            becomes_selector_iff (tokens.head?.map Prod.snd) hdepth]
          simp only [push_eq_ok_iff, add, addSelector_eq_ok_iff]
          constructor
          · rintro ⟨_, ⟨hnone, s, hs, rfl⟩, h⟩
            exact ⟨hnone, s, hs, (ih (by exact hopen) (by simp) hrest).1 h⟩
          · rintro ⟨hnone, s, hs, h⟩
            exact ⟨_, ⟨hnone, s, hs, rfl⟩, (ih (by exact hopen) (by simp) hrest).2 h⟩
      | group parts =>
          obtain ⟨before, tokens, rfl, hbefore, hrest⟩ := List.map_eq_append_iff.1 htokens
          obtain ⟨⟨_, line⟩, inside, rfl, rfl, hinside⟩ := List.map_eq_cons_iff.1 hbefore
          rw [pushAll_append, bind_eq_ok_iff, List.cons_append, List.head?_cons,
            Option.map_some, becomes_group_iff (tokens.head?.map Prod.snd) hdepth]
          simp only [pushAll_group_eq_ok_iff hopen hinside]
          constructor
          · rintro ⟨_, ⟨capture, hmakes, rfl⟩, h⟩
            exact ⟨capture, hmakes, (ih (by exact hopen) (by simp) hrest).1 h⟩
          · rintro ⟨capture, hmakes, h⟩
            exact ⟨_, ⟨capture, hmakes, rfl⟩, (ih (by exact hopen) (by simp) hrest).2 h⟩

/-- A line is accepted if and only if it becomes something. -/
theorem isLine_iff {items : List Item} {number : Option Nat} :
    IsLine items ↔ ∃ d, Becomes .empty number items d := by
  constructor
  · intro h
    obtain ⟨selector, hselector⟩ :
        ∃ s, AtMostOne IsSelector none (selectors items) s :=
      AtMostOne.exists_of_length_le h.length_selectors fun text htext => by
        obtain ⟨selector, hread⟩ := h.isSelector text htext
        exact ⟨(text, selector), rfl, hread⟩
    obtain ⟨captures, hcaptures⟩ : ∃ cs, List.Forall₂ Makes (groups items) cs :=
      exists_forall₂_iff.2 fun parts hparts => isGroup_iff.1 (h.isGroup parts hparts)
    exact ⟨⟨number, Item.depth items, selector, items.any isMarked, captures, none⟩, rfl, rfl,
      hselector, rfl, ⟨captures, hcaptures, rfl⟩, rfl⟩
  · rintro ⟨d, -, -, hselector, -, ⟨captures, hcaptures, -⟩, -⟩
    refine ⟨hselector.length_le, fun text htext => ?_, fun parts hparts => ?_⟩
    · obtain ⟨s, hs, -⟩ := hselector.of_mem htext
      exact ⟨s.2, hs.2⟩
    · exact isGroup_iff.2 (exists_forall₂_iff.1 ⟨captures, hcaptures⟩ parts hparts)

/-- **The end of a line.** A line without a selector contributes nothing, and one with a
selector makes a heading, at the depth of the line. -/
theorem finish_spec {items : List Item} {number : Option Nat} {d : LineDraft}
    (h : Becomes .empty number items d) (line : Nat) :
    (selectors items = [] ∧ d.finish line = .ok none) ∨
      ∃ l, d.finish line = .ok (some l) ∧ l.depth = Item.depth items ∧
        MakesHeading items l.heading := by
  obtain ⟨-, hdepth, hselector, hoptional, ⟨captures, hcaptures, happend⟩, hopen⟩ := h
  rw [finish, hopen]
  generalize htexts : selectors items = texts at hselector
  generalize hs : d.selector = selector at hselector
  cases hselector with
  | zero => exact .inl ⟨rfl, rfl⟩
  | @one text s _ hmeans =>
      obtain ⟨rfl, hread⟩ := hmeans
      refine .inr ⟨_, rfl, hdepth, htexts, hread, hoptional, ?_⟩
      change List.Forall₂ Makes (groups items) d.captures
      rwa [happend]

end LineDraft

end Harvest.Pattern
