import Harvest.Proofs.Except
import Harvest.Pattern.Compile

/-!
# Nesting Lines

Blocks open at any deeper depth, several of them may add to the child rules of one rule, and
a line may end any number of them at once. What comes of it is simple all the same: the
rules hold the headings of the lines, in order, and a rule lies below the nearest line before
it that is less deep.

A forest is compared with the lines by two lists in preorder, the headings and the positions
of the parents. `Outlines before` is what the lines so far say about an open block: where the
next line of the block, or a deeper one, has to go. One step of `buildBlock` keeps it.

## Main results

* `exists_block_of_outlines`: what a block makes of the lines from where it is open.
* `buildBlock_offside`: what the outermost block makes of all lines.
-/

namespace Harvest.Pattern

namespace Rule

@[simp] theorem headingsOfList_nil : headingsOfList [] = [] := by
  rw [headingsOfList]

/-- The headings of two lists of rules come one after the other. -/
theorem headingsOfList_append (rs rs' : List Rule) :
    headingsOfList (rs ++ rs') = headingsOfList rs ++ headingsOfList rs' := by
  induction rs with
  | nil => rfl
  | cons r rs ih =>
      rw [List.cons_append, headingsOfList, headingsOfList, ih, List.append_assoc]

@[simp] theorem headingsOfList_singleton (heading : Heading) (children : List Rule) :
    headingsOfList [.mk heading children] = heading :: headingsOfList children := by
  rw [headingsOfList, headingsOfList, headings, List.append_nil]

/-- The headings of a rule are among those of a list that holds it. -/
theorem mem_headingsOfList {rs : List Rule} {r : Rule} (hr : r ∈ rs) {h : Heading}
    (hh : h ∈ r.headings) : h ∈ headingsOfList rs := by
  obtain ⟨before, after, rfl⟩ := List.append_of_mem hr
  rw [headingsOfList_append, headingsOfList]
  exact List.mem_append_right _ (List.mem_append_left _ hh)

mutual

/-- The positions of the parents of a rule and of all rules below it, in preorder. The rule
itself has the position `start` and the parent `parent`. -/
def parents (parent : Option Nat) (start : Nat) : Rule → List (Option Nat)
  | .mk _ children => parent :: parentsOfList (some start) (start + 1) children

/-- The positions of the parents of a list of rules and of all rules below them, in
preorder. The rules of the list have the parent `parent`, and the first one has the position
`start`. -/
def parentsOfList (parent : Option Nat) (start : Nat) : List Rule → List (Option Nat)
  | [] => []
  | r :: rs =>
      r.parents parent start ++ parentsOfList parent (start + r.headings.length) rs

end

@[simp] theorem parentsOfList_nil (parent : Option Nat) (start : Nat) :
    parentsOfList parent start [] = [] := by
  rw [parentsOfList]

/-- The parents of two lists of rules come one after the other; the second list is counted from
where the first one ends. -/
theorem parentsOfList_append (parent : Option Nat) (start : Nat) (rs rs' : List Rule) :
    parentsOfList parent start (rs ++ rs') =
      parentsOfList parent start rs ++
        parentsOfList parent (start + (headingsOfList rs).length) rs' := by
  induction rs generalizing start with
  | nil => rfl
  | cons r rs ih =>
      rw [List.cons_append, parentsOfList, parentsOfList, ih, List.append_assoc,
        headingsOfList, List.length_append, Nat.add_assoc]

@[simp] theorem parentsOfList_singleton (parent : Option Nat) (start : Nat)
    (heading : Heading) (children : List Rule) :
    parentsOfList parent start [.mk heading children] =
      parent :: parentsOfList (some start) (start + 1) children := by
  rw [parentsOfList, parentsOfList, parents, List.append_nil]

end Rule

/-! ### The nearest line that is less deep -/

/-- The position of the latest of the depths `before` that is less than `depth`. The depths
are given latest first, and the earliest one has the position zero. -/
def nearest? (depth : Nat) : (before : List Nat) → Option Nat
  | [] => none
  | d :: before => if d < depth then some before.length else nearest? depth before

/-- For each line the nearest line before it that is less deep, given the depths of the lines
and those of the lines `before` them, latest first. -/
def nearestFrom (before : List Nat) : (depths : List Nat) → List (Option Nat)
  | [] => []
  | d :: depths => nearest? d before :: nearestFrom (d :: before) depths

/-- Lines that are not less deep are passed over. -/
theorem nearest?_append {depth : Nat} {passed : List Nat} (h : ∀ d ∈ passed, depth ≤ d)
    (before : List Nat) : nearest? depth (passed ++ before) = nearest? depth before := by
  induction passed with
  | nil => rfl
  | cons d passed ih =>
      obtain ⟨hd, hpassed⟩ := List.forall_mem_cons.1 h
      rw [List.cons_append, nearest?, if_neg (Nat.not_lt.2 hd), ih hpassed]

theorem nearestFrom_append (before depths depths' : List Nat) :
    nearestFrom before (depths ++ depths') =
      nearestFrom before depths ++ nearestFrom (depths.reverse ++ before) depths' := by
  induction depths generalizing before with
  | nil => rfl
  | cons d depths ih =>
      rw [List.cons_append, nearestFrom, nearestFrom, ih, List.reverse_cons,
        List.append_assoc, List.singleton_append, List.cons_append]

/-- The nearest shallower line is looked for among the lines before. -/
theorem getElem?_nearestFrom (before depths : List Nat) (i : Nat) :
    (nearestFrom before depths)[i]? =
      depths[i]?.map fun d => nearest? d ((depths.take i).reverse ++ before) := by
  induction depths generalizing before i with
  | nil => rfl
  | cons d depths ih =>
      cases i with
      | zero => rfl
      | succ i =>
          rw [nearestFrom, List.getElem?_cons_succ, List.getElem?_cons_succ, ih,
            List.take_succ_cons, List.reverse_cons, List.append_assoc, List.singleton_append]

/-- Among the first `n` depths, `nearest?` finds the last one that is less than `depth`. -/
theorem nearest?_take_spec (depth : Nat) (depths : List Nat) {n : Nat}
    (hn : n ≤ depths.length) :
    match nearest? depth (depths.take n).reverse with
    | none => ∀ j (hj : j < depths.length), j < n → depth ≤ depths[j]
    | some p => p < n ∧ ∃ hp : p < depths.length, depths[p] < depth ∧
        ∀ k (hk : k < depths.length), k < n → p < k → depth ≤ depths[k] := by
  induction n with
  | zero => exact fun j _ hj => absurd hj (Nat.not_lt_zero j)
  | succ n ih =>
      have hn' : n < depths.length := hn
      specialize ih (Nat.le_of_lt hn')
      rw [List.take_succ_eq_append_getElem hn', List.reverse_append, List.reverse_singleton,
        List.singleton_append, nearest?, List.length_reverse,
        List.length_take_of_le (Nat.le_of_lt hn')]
      by_cases hless : depths[n] < depth
      · rw [if_pos hless]
        exact ⟨Nat.lt_succ_self n, hn', hless, fun k _ hk hnk => by omega⟩
      · rw [if_neg hless]
        have hlast : ∀ k (hk : k < depths.length), k < n + 1 → ¬ k < n →
            depth ≤ depths[k] := by
          intro k _ hk hkn
          obtain rfl : k = n := by omega
          exact Nat.le_of_not_lt hless
        cases hfound : nearest? depth (depths.take n).reverse with
        | none =>
            rw [hfound] at ih
            intro j hj hjn
            by_cases hbefore : j < n
            · exact ih j hj hbefore
            · exact hlast j hj hjn hbefore
        | some p =>
            rw [hfound] at ih
            obtain ⟨hpn, hp, hlt, hafter⟩ := ih
            refine ⟨Nat.lt_succ_of_lt hpn, hp, hlt, fun k hk hkn hpk => ?_⟩
            by_cases hbefore : k < n
            · exact hafter k hk hbefore hpk
            · exact hlast k hk hkn hbefore

/-! ### Open blocks -/

/-- What the lines so far say about an open block whose first rule has the position `start`.
Their depths are `before`, latest first. A next line of the block has the parent `parent`,
and a deeper line lies below the last rule of the block, even if it should be less deep than
the lines below that rule, up to the depth of the line that comes next. -/
structure Outlines (before : List Nat) (depth start : Nat) (parent : Option Nat)
    (siblings : List Rule) (lines : List Line) : Prop where
  /-- The lines of the block have the right parent. -/
  nearest_depth : nearest? depth before = parent
  /-- The rules of the block are those of the lines so far, from `start` on. -/
  length_before : before.length = start + (Rule.headingsOfList siblings).length
  /-- A deeper line finds the last rule of the block. -/
  nearest_deeper : ∀ l, lines.head? = some l → ∀ d, depth < d → d ≤ l.depth →
    ∃ earlier last, siblings = earlier ++ [last] ∧
      nearest? d before = some (start + (Rule.headingsOfList earlier).length)

/-- What a block has made of the lines that it has taken: they are the lines up to the first
one that is less deep, its rules are the siblings followed by them, and each of them lies
below the nearest line before it that is less deep. -/
structure Takes (before : List Nat) (depth start : Nat) (parent : Option Nat)
    (siblings : List Rule) (lines taken rest : List Line) (rules : List Rule) : Prop where
  /-- The lines that are taken come first. -/
  lines_eq : lines = taken ++ rest
  /-- No line that is taken is less deep. -/
  depth_le : ∀ l ∈ taken, depth ≤ l.depth
  /-- The line after them is. -/
  lt_depth : ∀ l, rest.head? = some l → l.depth < depth
  /-- Their headings are added, in order. -/
  headings_eq : Rule.headingsOfList rules =
    Rule.headingsOfList siblings ++ taken.map Line.heading
  /-- So are their parents. -/
  parents_eq : Rule.parentsOfList parent start rules =
    Rule.parentsOfList parent start siblings ++ nearestFrom before (taken.map Line.depth)

section

variable {before : List Nat} {depth start : Nat} {parent : Option Nat} {siblings : List Rule}
  {lines : List Line}

/-- A block that takes no line. -/
theorem Takes.none_of_lt (h : ∀ l, lines.head? = some l → l.depth < depth) :
    Takes before depth start parent siblings lines [] lines siblings where
  lines_eq := rfl
  depth_le := List.forall_mem_nil _
  lt_depth := h
  headings_eq := (List.append_nil _).symm
  parents_eq := (List.append_nil _).symm

/-- A line that becomes the next rule of a block leaves the block open. -/
theorem Outlines.push (hparent : nearest? depth before = parent)
    (hlength : before.length = start + (Rule.headingsOfList siblings).length)
    (heading : Heading) (rest : List Line) :
    Outlines (depth :: before) depth start parent (siblings ++ [.mk heading []]) rest where
  nearest_depth := by rw [nearest?, if_neg (Nat.lt_irrefl depth), hparent]
  length_before := by
    simp only [Rule.headingsOfList_append, Rule.headingsOfList_singleton,
      Rule.headingsOfList_nil, List.length_append, List.length_cons, List.length_nil]
    omega
  nearest_deeper := by
    intro l _ d hd _
    exact ⟨siblings, .mk heading [], rfl, by rw [nearest?, if_pos hd, hlength]⟩

/-- The next rule of a block and what the block takes after it. -/
theorem Takes.push {l : Line} {rest taken left : List Line} {rules : List Rule}
    (hparent : nearest? l.depth before = parent)
    (h : Takes (l.depth :: before) l.depth start parent (siblings ++ [.mk l.heading []]) rest
      taken left rules) :
    Takes before l.depth start parent siblings (l :: rest) (l :: taken) left rules where
  lines_eq := congrArg (l :: ·) h.lines_eq
  depth_le := List.forall_mem_cons.2 ⟨Nat.le_refl _, h.depth_le⟩
  lt_depth := h.lt_depth
  headings_eq := by
    rw [h.headings_eq, Rule.headingsOfList_append, Rule.headingsOfList_singleton,
      Rule.headingsOfList_nil, List.append_assoc, List.map_cons]
    rfl
  parents_eq := by
    rw [h.parents_eq, Rule.parentsOfList_append, Rule.parentsOfList_singleton,
      Rule.parentsOfList_nil, List.append_assoc, List.map_cons, nearestFrom, hparent]
    rfl

/-! ### Blocks below the last rule -/

variable {l : Line} {rest passed left : List Line} {heading : Heading}
  {earlier children inner : List Rule}

/-- A deeper line opens a block below the last rule. -/
theorem Outlines.open_below
    (h : Outlines before depth start parent (earlier ++ [.mk heading children]) (l :: rest))
    (hdeeper : depth < l.depth) :
    Outlines (l.depth :: before) l.depth (start + (Rule.headingsOfList earlier).length + 1)
      (some (start + (Rule.headingsOfList earlier).length))
      (children ++ [.mk l.heading []]) rest := by
  obtain ⟨earlier', last, heq, hlast⟩ := h.nearest_deeper l rfl l.depth hdeeper (Nat.le_refl _)
  obtain ⟨rfl, -⟩ := List.append_inj' heq rfl
  have hlength := h.length_before
  rw [Rule.headingsOfList_append, Rule.headingsOfList_singleton, List.length_append,
    List.length_cons] at hlength
  exact Outlines.push hlast (by omega) l.heading rest

/-- A line that is not deeper than the one that opened a block below looks past that block
for its parent. -/
theorem nearest?_past (hpassed : ∀ l' ∈ passed, l.depth ≤ l'.depth) {d : Nat}
    (hd : d ≤ l.depth) :
    nearest? d ((passed.map Line.depth).reverse ++ l.depth :: before) = nearest? d before := by
  rw [nearest?_append, nearest?, if_neg (Nat.not_lt.2 hd)]
  intro d' hd'
  obtain ⟨l', hl', rfl⟩ := List.mem_map.1 (List.mem_reverse.1 hd')
  exact Nat.le_trans hd (hpassed l' hl')

/-- After a block below the last rule, the block that was open is open again. -/
theorem Outlines.close_below
    (h : Outlines before depth start parent (earlier ++ [.mk heading children]) (l :: rest))
    (hdeeper : depth < l.depth)
    (hinner : Takes (l.depth :: before) l.depth
      (start + (Rule.headingsOfList earlier).length + 1)
      (some (start + (Rule.headingsOfList earlier).length))
      (children ++ [.mk l.heading []]) rest passed left inner) :
    Outlines ((passed.map Line.depth).reverse ++ l.depth :: before) depth start parent
      (earlier ++ [.mk heading inner]) left where
  nearest_depth := by
    rw [nearest?_past hinner.depth_le (Nat.le_of_lt hdeeper), h.nearest_depth]
  length_before := by
    have hlength := h.length_before
    simp only [Rule.headingsOfList_append, Rule.headingsOfList_singleton,
      Rule.headingsOfList_nil, hinner.headings_eq, List.length_append, List.length_cons,
      List.length_reverse, List.length_map, List.length_nil] at hlength ⊢
    omega
  nearest_deeper := by
    intro l' hl' d hd hle
    have hbound : d ≤ l.depth :=
      Nat.le_of_lt (Nat.lt_of_le_of_lt hle (hinner.lt_depth l' hl'))
    obtain ⟨earlier', last', heq, hfound⟩ := h.nearest_deeper l rfl d hd hbound
    obtain ⟨rfl, -⟩ := List.append_inj' heq rfl
    exact ⟨earlier, .mk heading inner, rfl,
      by rw [nearest?_past hinner.depth_le hbound, hfound]⟩

/-- What a block takes is what the block below its last rule takes and what it takes after
that. -/
theorem Takes.nest {taken left' : List Line} {rules : List Rule}
    (h : Outlines before depth start parent (earlier ++ [.mk heading children]) (l :: rest))
    (hdeeper : depth < l.depth)
    (hinner : Takes (l.depth :: before) l.depth
      (start + (Rule.headingsOfList earlier).length + 1)
      (some (start + (Rule.headingsOfList earlier).length))
      (children ++ [.mk l.heading []]) rest passed left inner)
    (houter : Takes ((passed.map Line.depth).reverse ++ l.depth :: before) depth start parent
      (earlier ++ [.mk heading inner]) left taken left' rules) :
    Takes before depth start parent (earlier ++ [.mk heading children]) (l :: rest)
      (l :: passed ++ taken) left' rules where
  lines_eq := by
    rw [hinner.lines_eq, houter.lines_eq, List.cons_append, List.cons_append,
      List.append_assoc]
  depth_le := by
    intro l' hl'
    rcases List.mem_append.1 hl' with hl' | hl'
    · rcases List.mem_cons.1 hl' with rfl | hl'
      · exact Nat.le_of_lt hdeeper
      · exact Nat.le_of_lt (Nat.lt_of_lt_of_le hdeeper (hinner.depth_le l' hl'))
    · exact houter.depth_le l' hl'
  lt_depth := houter.lt_depth
  headings_eq := by
    rw [houter.headings_eq]
    simp only [Rule.headingsOfList_append, Rule.headingsOfList_singleton,
      Rule.headingsOfList_nil, hinner.headings_eq, List.map_append, List.map_cons,
      List.append_assoc, List.cons_append, List.nil_append]
  parents_eq := by
    obtain ⟨earlier', last, heq, hlast⟩ :=
      h.nearest_deeper l rfl l.depth hdeeper (Nat.le_refl _)
    obtain ⟨rfl, -⟩ := List.append_inj' heq rfl
    rw [houter.parents_eq]
    simp only [Rule.parentsOfList_append, Rule.parentsOfList_singleton,
      Rule.parentsOfList_nil, hinner.parents_eq, List.map_append, List.map_cons,
      List.append_assoc, List.cons_append, List.nil_append, nearestFrom, nearestFrom_append,
      hlast]

end

/-! ### The computation -/

/-- **Blocks.** From where it is open, a block takes the lines up to the first one that is
less deep, and it never fails. -/
theorem exists_block_of_outlines {before : List Nat} {depth start : Nat}
    {parent : Option Nat} {siblings : List Rule} {lines : List Line}
    (h : Outlines before depth start parent siblings lines) :
    ∃ block taken, buildBlock depth siblings lines = .ok block ∧
      Takes before depth start parent siblings lines taken block.rest block.rules := by
  induction depth, siblings, lines using buildBlock.induct
    generalizing before start parent with
  | case1 depth siblings =>
      exact ⟨⟨siblings, [], Nat.le_refl _⟩, [], by rw [buildBlock], Takes.none_of_lt nofun⟩
  | case2 depth siblings l rest hless =>
      refine ⟨⟨siblings, l :: rest, Nat.le_refl _⟩, [], by rw [buildBlock, if_pos hless],
        Takes.none_of_lt fun l' hl' => ?_⟩
      obtain rfl := Option.some.inj hl'
      exact hless
  | case3 depth siblings l rest _ hdeeper hnone =>
      obtain ⟨earlier, last, rfl, -⟩ := h.nearest_deeper l rfl l.depth hdeeper (Nat.le_refl _)
      rw [List.getLast?_concat] at hnone
      cases hnone
  | case4 depth siblings l rest hnot hdeeper above habove ihinner ihouter =>
      obtain ⟨earlier, ⟨heading, children⟩, rfl, -⟩ :=
        h.nearest_deeper l rfl l.depth hdeeper (Nat.le_refl _)
      obtain rfl : Rule.mk heading children = above := by
        rwa [List.getLast?_concat, Option.some.injEq] at habove
      rw [List.dropLast_concat] at ihouter
      obtain ⟨inner, passed, hinner, hpassed⟩ := ihinner (h.open_below hdeeper)
      obtain ⟨outer, taken, houter, htaken⟩ := ihouter inner (h.close_below hdeeper hpassed)
      refine ⟨outer.weaken (Nat.le_succ_of_le inner.length_rest_le), l :: passed ++ taken, ?_,
        Takes.nest h hdeeper hpassed htaken⟩
      rw [buildBlock, if_neg hnot, if_pos hdeeper, List.getLast?_concat,
        List.dropLast_concat]
      exact bind_eq_ok_iff.2 ⟨inner, hinner, bind_eq_ok_iff.2 ⟨outer, houter, rfl⟩⟩
  | case5 depth siblings l rest hnot hnotdeeper ih =>
      obtain rfl : l.depth = depth := by omega
      obtain ⟨block, taken, hblock, htaken⟩ :=
        ih (Outlines.push h.nearest_depth h.length_before l.heading rest)
      refine ⟨block.weaken (Nat.le_succ _), l :: taken, ?_, htaken.push h.nearest_depth⟩
      rw [buildBlock, if_neg hnot, if_neg hnotdeeper]
      exact bind_eq_ok_iff.2 ⟨block, hblock, rfl⟩

/-- No line is shallower than one that is not indented. -/
theorem nearest?_zero (before : List Nat) : nearest? 0 before = none := by
  induction before with
  | nil => rfl
  | cons d before ih => rw [nearest?, if_neg (Nat.not_lt_zero d), ih]

/-- The outermost block is open before its first line, unless that line is indented. The lines
`before` it make no difference. -/
theorem Outlines.start (before : List Nat) {lines : List Line}
    (h : ∀ l, lines.head? = some l → l.depth = 0) :
    Outlines before 0 before.length none [] lines where
  nearest_depth := nearest?_zero before
  length_before := by rw [Rule.headingsOfList_nil]; rfl
  nearest_deeper := by
    intro l hl d hd hle
    have hzero := h l hl
    omega

/-- The outermost block takes all lines, unless the first one is indented. -/
theorem exists_block_of_head (before : List Nat) {lines : List Line}
    (h : ∀ l, lines.head? = some l → l.depth = 0) :
    ∃ block, buildBlock 0 [] lines = .ok block ∧ block.rest = [] ∧
      Rule.headingsOfList block.rules = lines.map Line.heading ∧
      Rule.parentsOfList none before.length block.rules =
        nearestFrom before (lines.map Line.depth) := by
  obtain ⟨block, taken, hblock, htaken⟩ := exists_block_of_outlines (Outlines.start before h)
  have hrest : block.rest = [] := by
    cases hleft : block.rest with
    | nil => rfl
    | cons l rest => exact absurd (htaken.lt_depth l (by rw [hleft]; rfl)) (Nat.not_lt_zero _)
  have hlines := htaken.lines_eq
  have hheadings := htaken.headings_eq
  have hparents := htaken.parents_eq
  rw [hrest, List.append_nil] at hlines
  rw [Rule.headingsOfList_nil, List.nil_append, ← hlines] at hheadings
  rw [Rule.parentsOfList_nil, List.nil_append, ← hlines] at hparents
  exact ⟨block, hblock, hrest, hheadings, hparents⟩

/-- An indented first line has no rule to lie below. -/
theorem buildBlock_of_indented {l : Line} (h : 0 < l.depth) (rest : List Line) :
    buildBlock 0 [] (l :: rest) = .error ⟨l.number, .unexpectedIndent⟩ := by
  rw [buildBlock, if_neg (Nat.not_lt_zero _), if_pos h, List.getLast?_nil]

theorem forall_head_of_not_indented {lines : List Line}
    (h : ¬ ∃ l rest, lines = l :: rest ∧ 0 < l.depth) :
    ∀ l, lines.head? = some l → l.depth = 0 := by
  intro l hl
  obtain ⟨rest, rfl⟩ := List.head?_eq_some_iff.1 hl
  exact Nat.eq_zero_of_not_pos fun hpos => h ⟨l, rest, rfl, hpos⟩

/-- The outermost block fails only on an indented first line. -/
theorem buildBlock_eq_error_iff {lines : List Line} {e : CompileError} :
    buildBlock 0 [] lines = .error e ↔
      ∃ l rest, lines = l :: rest ∧ 0 < l.depth ∧ e = ⟨l.number, .unexpectedIndent⟩ := by
  constructor
  · intro he
    by_cases hindented : ∃ l rest, lines = l :: rest ∧ 0 < l.depth
    · obtain ⟨l, rest, rfl, hpos⟩ := hindented
      rw [buildBlock_of_indented hpos] at he
      cases he
      exact ⟨l, rest, rfl, hpos, rfl⟩
    · obtain ⟨block, hblock, -⟩ :=
        exists_block_of_head [] (forall_head_of_not_indented hindented)
      rw [hblock] at he
      cases he
  · rintro ⟨l, rest, rfl, hpos, rfl⟩
    exact buildBlock_of_indented hpos rest

/-- Lines make rules if and only if the first line is not indented. -/
theorem exists_arrange_iff {lines : List Line} :
    (∃ rules, arrange lines = .ok rules) ↔ ∀ l, lines.head? = some l → l.depth = 0 := by
  constructor
  · rintro ⟨rules, h⟩ l hl
    obtain ⟨block, hblock, -⟩ := map_eq_ok_iff.1 h
    obtain ⟨rest, rfl⟩ := List.head?_eq_some_iff.1 hl
    rcases Nat.eq_zero_or_pos l.depth with hzero | hpos
    · exact hzero
    · rw [buildBlock_of_indented hpos] at hblock
      cases hblock
  · intro hhead
    obtain ⟨block, hblock, -⟩ := exists_block_of_head [] hhead
    exact ⟨block.rules, map_eq_ok_iff.2 ⟨block, hblock, rfl⟩⟩

/-- The rules that lines make hold the headings of the lines, in order, and the parents are
the nearest lines before them, whichever lines come `before` all of them. -/
theorem preorder_of_arrange {lines : List Line} {rules : List Rule}
    (h : arrange lines = .ok rules) (before : List Nat) :
    Rule.headingsOfList rules = lines.map Line.heading ∧
      Rule.parentsOfList none before.length rules =
        nearestFrom before (lines.map Line.depth) := by
  obtain ⟨block', hblock', -, hpreorder⟩ :=
    exists_block_of_head before (exists_arrange_iff.1 ⟨rules, h⟩)
  obtain ⟨block, hblock, rfl⟩ := map_eq_ok_iff.1 h
  obtain rfl : block' = block := Except.ok.inj (hblock'.symm.trans hblock)
  exact hpreorder

/-- The rules that lines make hold the headings of the lines, in order. -/
theorem headings_of_arrange {lines : List Line} {rules : List Rule}
    (h : arrange lines = .ok rules) :
    Rule.headingsOfList rules = lines.map Line.heading :=
  (preorder_of_arrange h []).1

/-- Whether the rule of line `i` has the parent given by its position: the nearest line
before it that is less deep, and none if there is no such line. -/
def IsParent (lines : List Line) (i : Fin lines.length) : Option Nat → Prop
  | none => ∀ j, j < i → lines[i].depth ≤ lines[j].depth
  | some p => ∃ j : Fin lines.length, j = p ∧ j < i ∧ lines[j].depth < lines[i].depth ∧
      ∀ k, j < k → k < i → lines[i].depth ≤ lines[k].depth

/-- `nearestFrom` gives the parent of every line. -/
theorem isParent_nearestFrom (lines : List Line) (i : Fin lines.length) :
    ∃ parent, (nearestFrom [] (lines.map Line.depth))[i.val]? = some parent ∧
      IsParent lines i parent := by
  have hi : i.val ≤ (lines.map Line.depth).length := by
    rw [List.length_map]
    exact Nat.le_of_lt i.isLt
  have hspec := nearest?_take_spec lines[i].depth (lines.map Line.depth) hi
  refine ⟨nearest? lines[i].depth ((lines.map Line.depth).take i).reverse, ?_, ?_⟩
  · rw [getElem?_nearestFrom, List.getElem?_map, List.getElem?_eq_getElem i.isLt,
      List.append_nil]
    rfl
  · cases hfound : nearest? lines[i].depth ((lines.map Line.depth).take i).reverse with
    | none =>
        rw [hfound] at hspec
        intro j hj
        simpa using hspec j (by simp) hj
    | some p =>
        rw [hfound] at hspec
        obtain ⟨hp, _, hlt, hafter⟩ := hspec
        refine ⟨⟨p, Nat.lt_trans hp i.isLt⟩, rfl, hp, by simpa using hlt, fun k hpk hk => ?_⟩
        simpa using hafter k (by simp) hk hpk

theorem length_nearestFrom (before depths : List Nat) :
    (nearestFrom before depths).length = depths.length := by
  induction depths generalizing before with
  | nil => rfl
  | cons d depths ih => rw [nearestFrom, List.length_cons, List.length_cons, ih]

/-- **The offside rule.** The outermost block fails only if the first line is indented, and
then on that line. Otherwise it takes all lines: the headings of its rules in preorder are
those of the lines, none lost and in order, and the parent of each rule is the nearest line
before it that is less deep, a rule at the top having none. -/
theorem buildBlock_offside (lines : List Line) :
    (∀ e, buildBlock 0 [] lines = .error e ↔
      ∃ l rest, lines = l :: rest ∧ 0 < l.depth ∧ e = ⟨l.number, .unexpectedIndent⟩) ∧
    ((∃ l rest, lines = l :: rest ∧ 0 < l.depth) ∨
      ∃ block, buildBlock 0 [] lines = .ok block ∧ block.rest = [] ∧
        Rule.headingsOfList block.rules = lines.map Line.heading ∧
        nodeCount ⟨block.rules, .empty⟩ = lines.length ∧
        (Rule.parentsOfList none 0 block.rules).length = lines.length ∧
        ∀ i : Fin lines.length, ∃ parent,
          (Rule.parentsOfList none 0 block.rules)[i.val]? = some parent ∧
          IsParent lines i parent) := by
  refine ⟨fun _ => buildBlock_eq_error_iff, ?_⟩
  by_cases hindented : ∃ l rest, lines = l :: rest ∧ 0 < l.depth
  · exact .inl hindented
  · obtain ⟨block, hblock, hrest, hheadings, hparents⟩ :=
      exists_block_of_head [] (forall_head_of_not_indented hindented)
    rw [List.length_nil] at hparents
    refine .inr ⟨block, hblock, hrest, hheadings, ?_, ?_, ?_⟩
    · rw [nodeCount, hheadings, List.length_map]
    · rw [hparents, length_nearestFrom, List.length_map]
    · rw [hparents]
      exact isParent_nearestFrom lines

end Harvest.Pattern
