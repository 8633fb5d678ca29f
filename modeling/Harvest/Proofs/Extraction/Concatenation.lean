import Mathlib.Data.List.Basic
import Harvest.Proofs.Extraction.Collection
import Harvest.Proofs.Pattern.Forest
import Harvest.Proofs.Pattern.Seam

/-!
# Patterns One After the Other

Two sources with a newline between them make one pattern, and nothing of the first reaches
into the second: its last line ends at the newline, its blocks end at the first line of the
other, which is not indented, and its rules have been run to their end before those of the
other begin. So compiling and matching both respect concatenation.

## Main results

* `findAll_append`: what the rules of two patterns extract into a list.
* `compile_append_newline`: two sources as one pattern, compiled and matched.
-/

namespace Harvest.Pattern

open Extraction Html Record

/-- **Matching respects concatenation.** Into a list of dynamic records, the rules of two
patterns extract the records of the first, and then those of the second, unless one of them
fails. -/
theorem findAll_append (rules rules' : List Rule) (filters : Filter.Registry)
    (document : Document) (records : List RecordType.dynamic.Value) :
    findAll ⟨rules ++ rules', filters⟩ document .dynamic records =
      match findAll ⟨rules, filters⟩ document .dynamic [],
        findAll ⟨rules', filters⟩ document .dynamic [] with
      | (.error e, _), _ => (.error e, records)
      | (.ok (), _), (.error e, _) => (.error e, records)
      | (.ok (), found), (.ok (), found') => (.ok (), records ++ (found ++ found')) := by
  -- Dynamic records have every field, so that only the rules can fail.
  have hfault : ∀ rs : List Rule, fault? ⟨rs, filters⟩ document .dynamic =
      rulesFault? filters .dynamic document rs := fun _ => rfl
  rw [findAll_eq, findAll_eq, findAll_eq, hfault, hfault, hfault, rulesFault?_append]
  cases rulesFault? filters .dynamic document rules with
  | some e => rfl
  | none =>
      rw [Option.none_or]
      cases rulesFault? filters .dynamic document rules' with
      | some e => rfl
      | none => simp [collected]

/-! ### Sources -/

/-- **Concatenation.** Let a source compile, and let a newline and another source follow it.
If the other one compiles, the whole does: its rules are those of the first source followed
by those of the second, and with any filters, into a list of dynamic records, it extracts
what the first pattern does and then what the second does, or ends with the error of the
first one that fails. If the other one does not compile, the whole fails with the same fault,
as many lines further down as the first source takes up, except that a line that is indented
too deep to be the first one may lie below a rule of the first source. -/
theorem compile_append_newline [Diagnostics] {s : String} {p : Pattern} (h : compile s = .ok p)
    (s' : String) :
    (∀ p', compile s' = .ok p' → ∃ q, compile (s ++ "\n" ++ s') = .ok q ∧
      q.rules = p.rules ++ p'.rules ∧
      ∀ (filters : Filter.Registry) (document : Document)
        (records : List RecordType.dynamic.Value),
        findAll { q with filters } document .dynamic records =
          match findAll { p with filters } document .dynamic [],
            findAll { p' with filters } document .dynamic [] with
          | (.error e, _), _ => (.error e, records)
          | (.ok (), _), (.error e, _) => (.error e, records)
          | (.ok (), found), (.ok (), found') => (.ok (), records ++ (found ++ found'))) ∧
    ∀ e, compile s' = .error e → e.fault ≠ .unexpectedIndent →
      compile (s ++ "\n" ++ s') = .error ⟨e.line + 1 + newlines s.toList, e.fault⟩ := by
  obtain ⟨lines, hlines, rules, hrules, rfl⟩ := compile_eq_ok_iff.1 h
  have hchars : (s ++ "\n" ++ s').toList = s.toList ++ '\n' :: s'.toList := by simp
  have hseam := readLines_append_newline_of_ok hlines s'.toList
  rw [← hchars] at hseam
  refine ⟨fun p' h' => ?_, fun e h' hfault => ?_⟩
  · obtain ⟨lines', hlines', rules', hrules', rfl⟩ := compile_eq_ok_iff.1 h'
    rw [hlines'] at hseam
    exact ⟨⟨rules ++ rules', .empty⟩, compile_eq_ok_iff.2 ⟨_, hseam, _,
      arrange_append hrules (arrange_further _ hrules'), rfl⟩, rfl,
      fun filters document records => findAll_append rules rules' filters document records⟩
  · rcases compile_eq_error_iff.1 h' with hread | ⟨lines', -, harrange⟩
    · rw [hread] at hseam
      rw [compile_eq_error_iff, hseam, Nat.add_assoc, Nat.add_comm 1]
      exact .inl rfl
    · obtain ⟨l, rest, -, -, rfl⟩ := buildBlock_eq_error_iff.1 (map_eq_error_iff.1 harrange)
      exact absurd rfl hfault

/-- The theorem for a source that ends with a newline itself, before one that compiles and
before one that does not. -/
theorem compile_append_newline_list_paragraph :
    (∃ p p' q, compile "ul\n\tli (text A)\n" = .ok p ∧ compile "p (text B)" = .ok p' ∧
      compile ("ul\n\tli (text A)\n" ++ "\n" ++ "p (text B)") = .ok q ∧
      q.rules = p.rules ++ p'.rules ∧ p.rules.length = 1 ∧ p'.rules.length = 1) ∧
    compile ("ul\n\tli (text A)\n" ++ "\n" ++ "p\n(text") =
      .error ⟨5, .scan .unclosedCapture⟩ := by
  have hlist : (compile "ul\n\tli (text A)\n").map (fun p => p.rules.length) = .ok 1 := by
    decide +kernel
  have hparagraph : (compile "p (text B)").map (fun p => p.rules.length) = .ok 1 := by
    decide +kernel
  have hrefused : (compile "p\n(text").map (fun p => p.rules.length) =
      .error ⟨2, .scan .unclosedCapture⟩ := by decide +kernel
  have hopen := map_eq_error_iff.1 hrefused
  obtain ⟨p, hp, hlength⟩ := map_eq_ok_iff.1 hlist
  obtain ⟨p', hp', hlength'⟩ := map_eq_ok_iff.1 hparagraph
  obtain ⟨q, hq, hrules, -⟩ := (compile_append_newline hp "p (text B)").1 p' hp'
  exact ⟨⟨p, p', q, hp, hp', hq, hrules, hlength, hlength'⟩,
    (compile_append_newline hp "p\n(text").2 _ hopen (by decide)⟩

end Harvest.Pattern
