/-!
# Results and Errors

How the result of a computation that may end with an error comes about: an error goes
through, and a result is made of the results before it. In a fold the first error counts, and
the steps before it have had results.
-/

namespace Harvest

variable {ε α β : Type}

/-- Mapping leaves an error as it is. -/
theorem map_eq_error_iff {x : Except ε α} {f : α → β} {e : ε} :
    x.map f = .error e ↔ x = .error e := by
  cases x <;> simp [Except.map]

/-- A mapped result comes from a result. -/
theorem map_eq_ok_iff {x : Except ε α} {f : α → β} {b : β} :
    x.map f = .ok b ↔ ∃ a, x = .ok a ∧ f a = b := by
  cases x <;> simp [Except.map]

/-- A computation in two parts has a result if both parts have one. -/
theorem bind_eq_ok_iff {x : Except ε α} {f : α → Except ε β} {b : β} :
    (x >>= f) = .ok b ↔ ∃ a, x = .ok a ∧ f a = .ok b := by
  cases x with
  | error e => exact ⟨nofun, fun ⟨_, h, _⟩ => nomatch h⟩
  | ok a => exact ⟨fun h => ⟨a, rfl, h⟩, fun ⟨_, h, hf⟩ => by cases h; exact hf⟩

/-- A computation in two parts has an error if one of the parts has it. -/
theorem bind_eq_error_iff {x : Except ε α} {f : α → Except ε β} {e : ε} :
    (x >>= f) = .error e ↔ x = .error e ∨ ∃ a, x = .ok a ∧ f a = .error e := by
  cases x <;> simp [bind, Except.bind]

/-- A fold has an error if the first step that has one has it. -/
theorem foldlM_eq_error_iff {f : β → α → Except ε β} {as : List α} {b : β} {e : ε} :
    as.foldlM f b = .error e ↔
      ∃ before a after b', as = before ++ a :: after ∧ before.foldlM f b = .ok b' ∧
        f b' a = .error e := by
  constructor
  · intro h
    induction as generalizing b with
    | nil => cases h
    | cons a as ih =>
        rw [List.foldlM_cons] at h
        rcases bind_eq_error_iff.1 h with ha | ⟨b', ha, has⟩
        · exact ⟨[], a, as, b, rfl, rfl, ha⟩
        · obtain ⟨before, a', after, b'', rfl, hbefore, ha'⟩ := ih has
          refine ⟨a :: before, a', after, b'', rfl, ?_, ha'⟩
          rw [List.foldlM_cons, ha]
          exact hbefore
  · rintro ⟨before, a, after, b', rfl, hbefore, ha⟩
    rw [List.foldlM_append, hbefore]
    change (a :: after).foldlM f b' = .error e
    rw [List.foldlM_cons, ha]
    rfl

end Harvest
