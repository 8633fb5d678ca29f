import Mathlib.Data.List.Forall2
import Harvest.Proofs.Except
import Harvest.Proofs.Text.CaseMapping
import Harvest.Pattern.Line

/-!
# Bracket Groups

Between its brackets a group holds question marks, bare words and literals. The question
marks belong to the line. Of the rest the first is a word, the attribute; then come the
targets, at least one, with at most one literal anywhere among them.

`IsGroup` says which groups are accepted and `Makes` which capture a group makes. Reading a
group part by part, with its checks on the way and at the closing bracket, comes to that.

## Main results

* `isGroup_iff`: a group is accepted if and only if it makes a capture.
* `CaptureDraft.finish_takeAll_eq_ok_iff`: what reading a group gives.
-/

namespace Harvest.Pattern

variable {diagnostics : Diagnostics}

/-! ### Parts -/

/-- What stands between the brackets of a group. -/
inductive Part where
  /-- A question mark. -/
  | mark
  /-- A bare word. -/
  | word (text : String)
  /-- A regular expression literal, unescaped. -/
  | literal (source : String)

namespace Part

/-- The token of a part. -/
def token : Part → Token
  | .mark => .questionMark
  | .word text => .identifier text
  | .literal source => .regexp source

/-- Whether a part is a question mark. -/
def isMark : Part → Bool
  | .mark => true
  | _ => false

/-- The parts that are no question marks. -/
def unmarked (parts : List Part) : List Part :=
  parts.filter fun p => !p.isMark

/-- The bare words, in order. -/
def words : List Part → List String
  | [] => []
  | .word text :: parts => text :: words parts
  | _ :: parts => words parts

/-- The literals, in order. -/
def literals : List Part → List String
  | [] => []
  | .literal source :: parts => source :: literals parts
  | _ :: parts => literals parts

@[simp] theorem words_unmarked (parts : List Part) : words (unmarked parts) = words parts := by
  induction parts with
  | nil => rfl
  | cons p parts ih => cases p <;> simpa [unmarked, isMark, words] using ih

@[simp] theorem literals_unmarked (parts : List Part) :
    literals (unmarked parts) = literals parts := by
  induction parts with
  | nil => rfl
  | cons p parts ih => cases p <;> simpa [unmarked, isMark, literals] using ih

end Part

open Pattern.Part

/-! ### Groups and captures -/

/-- A text is the field and the filters of a target with dots between them, none of them
empty. -/
def IsTarget (text : String) (t : Target) : Prop :=
  segments text = t.field :: t.filters ∧ ∀ s ∈ segments text, s ≠ ""

/-- A text is the source of an expression. -/
def IsExpression (source : String) (e : Expression) : Prop :=
  e.source = source ∧ Regex.compile? source = some e.regex

/-- Texts give a value if there is one at most and it means the value. Without one the value
is the one `before`, and with one there is no value before. -/
inductive AtMostOne {α : Type} (Means : String → α → Prop) (before : Option α) :
    List String → Option α → Prop
  /-- No text. -/
  | zero : AtMostOne Means before [] before
  /-- The only text. -/
  | one {text : String} {a : α} (hbefore : before = none) (h : Means text a) :
      AtMostOne Means before [text] (some a)

section

variable {α : Type} {Means : String → α → Prop} {before after : Option α} {text : String}
  {texts : List String}

theorem atMostOne_nil_iff : AtMostOne Means before [] after ↔ after = before := by
  constructor
  · rintro ⟨⟩
    rfl
  · rintro rfl
    exact .zero

/-- A text is taken only if none was taken before, and then none is taken after it. -/
theorem atMostOne_cons_iff :
    AtMostOne Means before (text :: texts) after ↔
      before = none ∧ ∃ a, Means text a ∧ AtMostOne Means (some a) texts after := by
  constructor
  · intro h
    cases h with
    | one hbefore hmeans => exact ⟨hbefore, _, hmeans, .zero⟩
  · rintro ⟨hbefore, a, hmeans, h⟩
    cases h with
    | zero => exact .one hbefore hmeans
    | one hnone => cases hnone

/-- There is at most one text. -/
theorem AtMostOne.length_le (h : AtMostOne Means before texts after) : texts.length ≤ 1 := by
  cases h <;> simp

/-- The text that there is means what is left. -/
theorem AtMostOne.of_mem (h : AtMostOne Means before texts after) (htext : text ∈ texts) :
    ∃ a, Means text a ∧ after = some a := by
  cases h with
  | zero => cases htext
  | one _ hmeans =>
      obtain rfl := List.mem_singleton.1 htext
      exact ⟨_, hmeans, rfl⟩

/-- A value comes from the text that means it. -/
theorem AtMostOne.exists_mem {a : α} (h : AtMostOne Means none texts (some a)) :
    ∃ text ∈ texts, Means text a := by
  cases h with
  | one _ hmeans => exact ⟨_, List.mem_cons_self, hmeans⟩

/-- One text at most that means something gives a value. -/
theorem AtMostOne.exists_of_length_le (hlength : texts.length ≤ 1)
    (hmeans : ∀ text ∈ texts, ∃ a, Means text a) :
    ∃ after, AtMostOne Means none texts after := by
  match texts with
  | [] => exact ⟨_, .zero⟩
  | [text] =>
      obtain ⟨a, ha⟩ := hmeans text List.mem_cons_self
      exact ⟨_, .one rfl ha⟩
  | _ :: _ :: _ => simp at hlength

end

/-- A group is accepted: apart from question marks it is an attribute and then at least one
target, each without empty segments, and at most one literal, which compiles and has a group
for every target. -/
def IsGroup (parts : List Part) : Prop :=
  ∃ key rest, unmarked parts = .word key :: rest ∧ words rest ≠ [] ∧
    (∀ text ∈ words rest, ∀ s ∈ segments text, s ≠ "") ∧ (literals rest).length ≤ 1 ∧
    ∀ source ∈ literals rest, ∃ regex, Regex.compile? source = some regex ∧
      (words rest).length ≤ regex.groups

/-- A group makes a capture: of its attribute, with its targets in order, and with the
expression of its literal. -/
def Makes (parts : List Part) (c : Capture) : Prop :=
  ∃ key rest, unmarked parts = .word key :: rest ∧ c.source = .ofKey key ∧
    words rest ≠ [] ∧ List.Forall₂ IsTarget (words rest) c.targets ∧
    AtMostOne IsExpression none (literals rest) c.expression ∧
    ∀ e, c.expression = some e → c.targets.length ≤ e.regex.groups

/-- A text has at least one segment. -/
theorem segments_ne_nil (text : String) : segments text ≠ [] := by
  simp [segments, Text.pieces]

/-- A text is a target if no segment of it is empty. -/
theorem exists_isTarget_iff {text : String} :
    (∃ t, IsTarget text t) ↔ ∀ s ∈ segments text, s ≠ "" := by
  refine ⟨fun ⟨_, h⟩ => h.2, fun h => ?_⟩
  cases hsegments : segments text with
  | nil => exact absurd hsegments (segments_ne_nil text)
  | cons field filters => exact ⟨⟨field, filters⟩, hsegments, h⟩

/-- Reading a target splits it into its segments. -/
theorem parse_eq_ok_iff {text : String} {t : Target} :
    Target.parse text = .ok t ↔ IsTarget text t := by
  obtain ⟨field, filters⟩ := t
  rw [Target.parse, IsTarget]
  cases hsegments : segments text with
  | nil => exact absurd hsegments (segments_ne_nil text)
  | cons s rest =>
      have hempty : (s.isEmpty || rest.any String.isEmpty) = true ↔
          ¬ ∀ s' ∈ s :: rest, s' ≠ "" := by
        simp only [Bool.or_eq_true, String.isEmpty_iff, List.any_eq_true, List.forall_mem_cons,
          Decidable.not_and_iff_not_or_not, ne_eq, Decidable.not_not, not_forall, exists_prop]
      dsimp only
      split
      · rename_i h
        exact ⟨nofun, fun hall => absurd hall.2 (hempty.1 h)⟩
      · rename_i h
        have hall := Decidable.not_not.1 (mt hempty.2 h)
        rw [Except.ok.injEq, Target.mk.injEq, List.cons.injEq]
        exact ⟨fun heq => ⟨heq, hall⟩, fun heq => heq.1⟩

/-- A relation that holds of every entry relates a list to another one. -/
theorem exists_forall₂_iff {α β : Type} {R : α → β → Prop} {as : List α} :
    (∃ bs, List.Forall₂ R as bs) ↔ ∀ a ∈ as, ∃ b, R a b := by
  induction as with
  | nil => exact ⟨fun _ => nofun, fun _ => ⟨[], .nil⟩⟩
  | cons a as ih =>
      constructor
      · rintro ⟨_, _ | ⟨hab, h⟩⟩
        exact List.forall_mem_cons.2 ⟨⟨_, hab⟩, ih.1 ⟨_, h⟩⟩
      · intro h
        obtain ⟨⟨b, hab⟩, hrest⟩ := List.forall_mem_cons.1 h
        obtain ⟨bs, hbs⟩ := ih.2 hrest
        exact ⟨b :: bs, .cons hab hbs⟩

/-- A group that begins with its attribute. -/
theorem makes_cons_iff {key : String} {parts : List Part} {c : Capture} :
    Makes (.word key :: parts) c ↔
      c.source = .ofKey key ∧ words parts ≠ [] ∧
        List.Forall₂ IsTarget (words parts) c.targets ∧
        AtMostOne IsExpression none (literals parts) c.expression ∧
        ∀ e, c.expression = some e → c.targets.length ≤ e.regex.groups := by
  rw [← words_unmarked parts, ← literals_unmarked parts]
  constructor
  · rintro ⟨_, _, hparts, h⟩
    obtain ⟨hkey, rfl⟩ := List.cons.inj hparts
    obtain rfl := Part.word.inj hkey
    exact h
  · exact fun h => ⟨key, _, rfl, h⟩

/-- **Accepted groups** are those that make a capture. -/
theorem isGroup_iff {parts : List Part} : IsGroup parts ↔ ∃ c, Makes parts c := by
  constructor
  · rintro ⟨key, rest, hparts, hne, hsegments, hone, hcompiles⟩
    obtain ⟨targets, htargets⟩ : ∃ targets, List.Forall₂ IsTarget (words rest) targets :=
      exists_forall₂_iff.2 fun text htext => exists_isTarget_iff.2 (hsegments text htext)
    have hlength := htargets.length_eq
    obtain ⟨expression, hexpression⟩ : ∃ e, AtMostOne IsExpression none (literals rest) e :=
      AtMostOne.exists_of_length_le hone fun source hsource => by
        obtain ⟨regex, hcompile, -⟩ := hcompiles source hsource
        exact ⟨⟨source, regex⟩, rfl, hcompile⟩
    refine ⟨⟨.ofKey key, expression, targets⟩, key, rest, hparts, rfl, hne, htargets,
      hexpression, fun e he => ?_⟩
    obtain rfl : expression = some e := he
    obtain ⟨source, hsource, hmeans⟩ := hexpression.exists_mem
    obtain ⟨regex, hcompile, hgroups⟩ := hcompiles source hsource
    obtain rfl := Option.some.inj (hmeans.2.symm.trans hcompile)
    rwa [← hlength]
  · rintro ⟨c, key, rest, hparts, -, hne, htargets, hexpression, hgroups⟩
    refine ⟨key, rest, hparts, hne, fun text htext => ?_, ?_, fun source hsource => ?_⟩
    · exact exists_isTarget_iff.1 (exists_forall₂_iff.1 ⟨_, htargets⟩ text htext)
    · exact hexpression.length_le
    · obtain ⟨e, ⟨-, hcompile⟩, he⟩ := hexpression.of_mem hsource
      exact ⟨e.regex, hcompile, htargets.length_eq ▸ hgroups e he⟩

/-! ### Reading a group -/

/-- A key in lower case names the same attribute. -/
theorem Attribute.ofKey_lower (key : String) : ofKey (Text.lower key) = ofKey key := by
  rw [ofKey, ofKey, Text.lower_lower]

/-- A part of a group, for a capture that is open. A question mark does not change it. -/
def CaptureDraft.take [Diagnostics] (c : CaptureDraft) : Part → Except CompileFault CaptureDraft
  | .mark => .ok c
  | .word text => c.addIdentifier text
  | .literal source => c.addExpression source

/-- The parts of a group, for a capture that is open. -/
def CaptureDraft.takeAll [Diagnostics] (c : CaptureDraft) (parts : List Part) :
    Except CompileFault CaptureDraft :=
  parts.foldlM take c

namespace CaptureDraft

/-- Parts are taken one after the other. -/
theorem takeAll_cons (c : CaptureDraft) (p : Part) (parts : List Part) :
    c.takeAll (p :: parts) = c.take p >>= fun c => c.takeAll parts := by
  rw [takeAll, List.foldlM_cons]
  rfl

/-- A word of a capture that has its attribute is a target. -/
theorem addIdentifier_eq_ok_iff {c c' : CaptureDraft} {key : String} (hkey : c.key = some key)
    {text : String} :
    c.addIdentifier text = .ok c' ↔
      ∃ t, IsTarget text t ∧ c' = { c with targets := c.targets ++ [t] } := by
  rw [addIdentifier, hkey]
  dsimp only
  rw [map_eq_ok_iff]
  simp only [parse_eq_ok_iff, eq_comm (a := c')]

/-- A literal of a capture that has its attribute is its expression. -/
theorem addExpression_eq_ok_iff {c c' : CaptureDraft} {key : String} (hkey : c.key = some key)
    {source : String} :
    c.addExpression source = .ok c' ↔
      c.expression = none ∧ ∃ e, IsExpression source e ∧
        c' = { c with expression := some e } := by
  rw [addExpression, hkey, if_neg (by simp)]
  cases c.expression with
  | some e => simp
  | none =>
      rw [if_neg (by simp)]
      cases hcompile : Regex.compile? source with
      | none => simp [IsExpression, hcompile]
      | some regex =>
          have hmeans : ∀ e, IsExpression source e ↔ e = ⟨source, regex⟩ := by
            rintro ⟨source', regex'⟩
            simp [IsExpression, hcompile, eq_comm]
          simp [hmeans, eq_comm]

/-- **Targets and literals.** What the parts after the attribute add to a capture. -/
theorem takeAll_eq_ok_iff {parts : List Part} {c c' : CaptureDraft} {key : String}
    (hkey : c.key = some key) :
    c.takeAll parts = .ok c' ↔
      c'.key = some key ∧
        (∃ targets, List.Forall₂ IsTarget (words parts) targets ∧
          c'.targets = c.targets ++ targets) ∧
        AtMostOne IsExpression c.expression (literals parts) c'.expression := by
  induction parts generalizing c with
  | nil =>
      obtain ⟨key', expression', targets'⟩ := c'
      obtain ⟨_, expression, targets⟩ := c
      obtain rfl : _ = some key := hkey
      simp [takeAll, literals, words, atMostOne_nil_iff, pure, Except.pure, eq_comm,
        and_comm]
  | cons p parts ih =>
      rw [takeAll_cons, bind_eq_ok_iff]
      cases p with
      | mark =>
          simp only [take, Except.ok.injEq, exists_eq_left']
          exact ih hkey
      | word text =>
          simp only [take, addIdentifier_eq_ok_iff hkey]
          constructor
          · rintro ⟨_, ⟨t, ht, rfl⟩, h⟩
            obtain ⟨hkey', ⟨targets, htargets, happend⟩, hexpression⟩ :=
              (@ih { c with targets := c.targets ++ [t] } hkey).1 h
            exact ⟨hkey', ⟨t :: targets, .cons ht htargets, by simp [happend]⟩, hexpression⟩
          · rintro ⟨hkey', ⟨_, hall, happend⟩, hexpression⟩
            obtain ⟨t, targets, ht, htargets, rfl⟩ := List.forall₂_cons_left_iff.1 hall
            refine ⟨_, ⟨t, ht, rfl⟩, (@ih { c with targets := c.targets ++ [t] } hkey).2
              ⟨hkey', ⟨targets, htargets, ?_⟩, hexpression⟩⟩
            rw [happend, List.append_assoc, List.singleton_append]
      | literal source =>
          simp only [take, addExpression_eq_ok_iff hkey, literals, atMostOne_cons_iff]
          constructor
          · rintro ⟨_, ⟨hnone, e, he, rfl⟩, h⟩
            obtain ⟨hkey', htargets, hexpression⟩ :=
              (@ih { c with expression := some e } hkey).1 h
            exact ⟨hkey', htargets, hnone, e, he, hexpression⟩
          · rintro ⟨hkey', htargets, hnone, e, he, hexpression⟩
            exact ⟨_, ⟨hnone, e, he, rfl⟩,
              (@ih { c with expression := some e } hkey).2
                ⟨hkey', htargets, hexpression⟩⟩

/-- The closing bracket of a capture that has its attribute. -/
theorem finish_eq_ok_iff {c : CaptureDraft} {key : String} (hkey : c.key = some key)
    {capture : Capture} :
      c.finish = .ok capture ↔ c.targets ≠ [] ∧
      (∀ e, c.expression = some e → c.targets.length ≤ e.regex.groups) ∧
      capture = ⟨.ofKey key, c.expression, c.targets⟩ := by
  rw [finish, hkey]
  dsimp only
  by_cases htargets : c.targets.isEmpty
  · rw [if_pos htargets]
    simp [List.isEmpty_iff.1 htargets]
  · rw [if_neg htargets]
    have hne : c.targets ≠ [] := fun hnil => htargets (List.isEmpty_iff.2 hnil)
    cases hexpression : c.expression with
    | none => simp [hne, eq_comm]
    | some e =>
        by_cases hgroups : e.regex.groups < c.targets.length
        · simp [hgroups, Nat.not_le.2 hgroups]
        · simp [hgroups, hne, Nat.not_lt.1 hgroups, eq_comm]

/-- **Groups.** Reading all parts and then the closing bracket gives the capture that the
group makes. -/
theorem finish_takeAll_eq_ok_iff {parts : List Part} {capture : Capture} :
    (empty.takeAll parts >>= finish) = .ok capture ↔ Makes parts capture := by
  induction parts with
  | nil => exact ⟨nofun, fun ⟨_, _, hparts, _⟩ => nomatch hparts⟩
  | cons p parts ih =>
      cases p with
      | mark => exact ih
      | literal source => exact ⟨nofun, fun ⟨_, _, hparts, _⟩ => nomatch hparts⟩
      | word text =>
          have hkey : (⟨some (Text.lower text), none, []⟩ : CaptureDraft).key =
              some (Text.lower text) := rfl
          rw [makes_cons_iff, bind_eq_ok_iff]
          constructor
          · rintro ⟨c, htake, hfinish⟩
            obtain ⟨hkey', ⟨targets, htargets, happend⟩, hexpression⟩ :=
              (takeAll_eq_ok_iff hkey).1 htake
            obtain ⟨hne, hgroups, rfl⟩ := (finish_eq_ok_iff hkey').1 hfinish
            rw [List.nil_append] at happend
            subst happend
            rw [Attribute.ofKey_lower]
            refine ⟨rfl, fun hnil => hne ?_, htargets, hexpression, hgroups⟩
            rwa [hnil, List.forall₂_nil_left_iff] at htargets
          · rintro ⟨hsource, hne, htargets, hexpression, hgroups⟩
            obtain ⟨source, expression, targets⟩ := capture
            obtain rfl : source = .ofKey text := hsource
            refine ⟨⟨some (Text.lower text), expression, targets⟩,
              (takeAll_eq_ok_iff hkey).2 ⟨rfl, ⟨targets, htargets, rfl⟩, hexpression⟩,
              (finish_eq_ok_iff rfl).2 ⟨fun hnil => hne ?_, hgroups, ?_⟩⟩
            · obtain rfl : targets = [] := hnil
              exact List.forall₂_nil_right_iff.1 htargets
            · rw [Attribute.ofKey_lower]

end CaptureDraft

end Harvest.Pattern
