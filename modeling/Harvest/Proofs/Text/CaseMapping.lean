import Harvest.Text.CaseMapping

/-!
# Lower Case

A text in lower case stays as it is when it is lower-cased again. The table of mappings is
checked for what this needs: no run sends a code point to one that a run moves, nor to a
capital letter that is mapped apart from the table.

## Main results

* `lowerTable_settles`: the check of the table.
* `lower_lower`: a text in lower case is its own lower-case form.
-/

namespace Harvest.Text

/-! ### Runs -/

/-- A run moves a code point. -/
def CodeRun.Moves (r : CodeRun) (n : Nat) : Prop :=
  r.first ≤ n ∧ n ≤ r.last ∧ (n - r.first) % r.step = 0

instance (r : CodeRun) (n : Nat) : Decidable (r.Moves n) :=
  inferInstanceAs (Decidable (_ ∧ _ ∧ _))

/-- A code point that a map moves is moved by one of its runs. -/
theorem CodeMap.exists_run_of_image? {m : CodeMap} {n k : Nat} (h : m.image? n = some k) :
    ∃ r ∈ m.runs.toList, r.Moves n ∧ k = r.image + (n - r.first) := by
  rw [CodeMap.image?] at h
  split at h
  · rename_i r hr
    split at h
    · rename_i hmoves
      exact ⟨r, Array.mem_toList_iff.2 (Array.mem_of_getElem? hr), hmoves,
        (Option.some.inj h).symm⟩
    · cases h
  · cases h

/-- A code point that no run moves is left alone. -/
theorem CodeMap.image?_eq_none {m : CodeMap} {n : Nat}
    (h : ∀ r ∈ m.runs.toList, ¬ r.Moves n) : m.image? n = none := by
  cases himage : m.image? n with
  | none => rfl
  | some k =>
      obtain ⟨r, hr, hmoves, -⟩ := CodeMap.exists_run_of_image? himage
      exact absurd hmoves (h r hr)

/-- The code points to which a run sends lie apart from those that another moves: on one
side of them, or between them. -/
def CodeRun.avoids (r q : CodeRun) : Bool :=
  r.image + (r.last - r.first) < q.first || q.last < r.image ||
    ((r.step == 2 || r.first == r.last) && q.step == 2 && (r.image + q.first) % 2 == 1)

theorem CodeRun.not_moves_image {r q : CodeRun} (h : r.avoids q = true) {n : Nat}
    (hn : r.Moves n) : ¬ q.Moves (r.image + (n - r.first)) := by
  rintro ⟨hfirst, hlast, hstep⟩
  obtain ⟨hn, hn', hnstep⟩ := hn
  simp only [CodeRun.avoids, Bool.or_eq_true, Bool.and_eq_true, decide_eq_true_eq,
    beq_iff_eq] at h
  rcases h with (h | h) | ⟨⟨hr, hq⟩, hodd⟩
  · omega
  · omega
  · rw [hq] at hstep
    rcases hr with hr | hr
    · rw [hr] at hnstep
      omega
    · omega

/-! ### Lower case of one character -/

/-- A code point that lower-casing leaves alone wherever it stands. -/
structure IsLower (n : Nat) : Prop where
  /-- It is no capital letter of ASCII. -/
  not_ascii : n < 65 ∨ 90 < n
  /-- It is not the dotted capital i. -/
  not_dotted : n ≠ 0x130
  /-- It is not the capital sigma. -/
  not_sigma : n ≠ 0x3A3
  /-- The table does not move it. -/
  image?_eq_none : lowerTable.image? n = none

/-- The code points to which a run sends are characters, and none of those that are mapped
apart from the table is among them. -/
def CodeRun.sendsApart (r : CodeRun) : Bool :=
  let last := r.image + (r.last - r.first)
  (last < 65 || 90 < r.image) && (last < 0x130 || 0x130 < r.image) &&
    (last < 0x3A3 || 0x3A3 < r.image) && (last < 0xD800 || 0xDFFF < r.image) && last < 0x110000

/-- The code points outside the table to which lower-casing sends. -/
def apart : List Nat := [0x69, 0x307, 0x3C2, 0x3C3]

/-- A map does not move the code points to which it sends, those outside the table to which
lower-casing sends, and those of ASCII. -/
def CodeMap.settles (m : CodeMap) : Bool :=
  m.runs.toList.all fun r =>
    128 ≤ r.first && r.sendsApart && (apart.all fun n => !decide (r.Moves n)) &&
      m.runs.toList.all r.avoids

set_option maxRecDepth 100000 in
/-- The table of lower-case mappings passes the check. -/
theorem lowerTable_settles : lowerTable.settles = true := by
  unfold lowerTable CodeMap.ofTable tableItems
  rw [String.toList_ofList]
  decide +kernel

theorem isLower_of_ascii {n : Nat} (hn : n < 128) (hcapital : n < 65 ∨ 90 < n) :
    IsLower n := by
  have hsettles := lowerTable_settles
  simp only [CodeMap.settles, List.all_eq_true, Bool.and_eq_true, decide_eq_true_eq]
    at hsettles
  have hnone : lowerTable.image? n = none := by
    refine CodeMap.image?_eq_none fun r hr hmoves => ?_
    have hfirst := (hsettles r hr).1.1.1
    have hn' := hmoves.1
    omega
  constructor
  · exact hcapital
  · omega
  · omega
  · exact hnone

theorem isLower_apart {n : Nat} (hn : n ∈ apart) : IsLower n := by
  have hsettles := lowerTable_settles
  simp only [CodeMap.settles, List.all_eq_true, Bool.and_eq_true] at hsettles
  have hnone : lowerTable.image? n = none :=
    CodeMap.image?_eq_none fun r hr => by simpa using (hsettles r hr).1.2 n hn
  simp only [apart, List.mem_cons, List.not_mem_nil, or_false] at hn
  constructor
  · omega
  · omega
  · omega
  · exact hnone

/-- The table sends a code point to a character that it leaves alone. -/
theorem isLower_image {n k : Nat} (h : lowerTable.image? n = some k) :
    IsLower k ∧ k.isValidChar := by
  obtain ⟨r, hr, hmoves, rfl⟩ := CodeMap.exists_run_of_image? h
  have hsettles := lowerTable_settles
  simp only [CodeMap.settles, List.all_eq_true, Bool.and_eq_true] at hsettles
  obtain ⟨⟨⟨-, hapart⟩, -⟩, havoids⟩ := hsettles r hr
  simp only [CodeRun.sendsApart, Bool.and_eq_true, Bool.or_eq_true, decide_eq_true_eq]
    at hapart
  have hnone : lowerTable.image? (r.image + (n - r.first)) = none :=
    CodeMap.image?_eq_none fun q hq => CodeRun.not_moves_image (havoids q hq) hmoves
  obtain ⟨-, hlast, -⟩ := hmoves
  refine ⟨⟨?_, ?_, ?_, hnone⟩, ?_⟩
  · omega
  · omega
  · omega
  · simp only [Nat.isValidChar]
    omega

/-- Lower-casing leaves such a character alone. -/
theorem lowerChar_eq_self {c : Char} (h : IsLower c.toNat) : lowerChar c = [c] := by
  rw [lowerChar]
  split
  · have hnot : ¬ (c.val ≥ 'A'.val ∧ c.val ≤ 'Z'.val) := by
      have hascii := h.not_ascii
      simp only [Char.toNat, ge_iff_le, UInt32.le_iff_toNat_le, Char.reduceVal,
        UInt32.reduceToNat] at hascii ⊢
      omega
    exact congrArg (fun d => [d]) (dif_neg hnot)
  · rw [if_neg h.not_dotted, h.image?_eq_none]

/-- The lower-case mapping of an ASCII character is an ASCII character and no capital. -/
theorem toLower_ascii : ∀ n : Fin 128,
    (Char.ofNat n).toLower.toNat < 128 ∧
      ((Char.ofNat n).toLower.toNat < 65 ∨ 90 < (Char.ofNat n).toLower.toNat) := by
  decide +kernel

/-- The lower-case mapping of a character is made of characters in lower case. -/
theorem isLower_lowerChar {c : Char} (hsigma : c.toNat ≠ 0x3A3) {d : Char}
    (hd : d ∈ lowerChar c) : IsLower d.toNat := by
  rw [lowerChar] at hd
  split at hd
  · rename_i hascii
    obtain ⟨hlt, hcapital⟩ := toLower_ascii ⟨c.toNat, hascii⟩
    rw [Char.ofNat_toNat] at hlt hcapital
    obtain rfl := List.mem_singleton.1 hd
    exact isLower_of_ascii hlt hcapital
  · split at hd
    · rcases List.mem_cons.1 hd with rfl | hd
      · exact isLower_apart (by decide)
      · obtain rfl := List.mem_singleton.1 hd
        exact isLower_apart (by decide)
    · split at hd
      · rename_i m hm
        obtain rfl := List.mem_singleton.1 hd
        obtain ⟨hlower, hvalid⟩ := isLower_image hm
        have hnat : (Char.ofNat m).toNat = m := by
          rw [Char.ofNat, dif_pos hvalid]
          rfl
        rwa [hnat]
      · obtain rfl := List.mem_singleton.1 hd
        constructor
        · omega
        · assumption
        · exact hsigma
        · assumption

/-! ### Lower case of a text -/

/-- The characters of a lower-cased text are in lower case. -/
theorem isLower_of_mem_lowerFrom {before cs done : List Char}
    (hdone : ∀ d ∈ done, IsLower d.toNat) :
    ∀ d ∈ lowerFrom before cs done, IsLower d.toNat := by
  induction cs generalizing before done with
  | nil =>
      rw [lowerFrom]
      exact fun d hd => hdone d (List.mem_reverse.1 hd)
  | cons c rest ih =>
      rw [lowerFrom]
      refine ih fun d hd => ?_
      rcases List.mem_append.1 hd with hd | hd
      · rw [List.mem_reverse] at hd
        split at hd
        · split at hd <;> obtain rfl := List.mem_singleton.1 hd
          · exact isLower_apart (by decide)
          · exact isLower_apart (by decide)
        · rename_i hsigma
          exact isLower_lowerChar hsigma hd
      · exact hdone d hd

/-- A text in lower case stays as it is. -/
theorem lowerFrom_eq_of_isLower {before cs done : List Char}
    (hcs : ∀ c ∈ cs, IsLower c.toNat) : lowerFrom before cs done = done.reverse ++ cs := by
  induction cs generalizing before done with
  | nil => rw [lowerFrom, List.append_nil]
  | cons c rest ih =>
      obtain ⟨hc, hrest⟩ := List.forall_mem_cons.1 hcs
      rw [lowerFrom, if_neg hc.not_sigma, lowerChar_eq_self hc, ih hrest]
      simp

/-- **Lower-casing once is enough.** -/
theorem lower_lower (s : String) : lower (lower s) = lower s := by
  rw [lower, lower, String.toList_ofList, lowerChars, lowerChars,
    lowerFrom_eq_of_isLower (isLower_of_mem_lowerFrom (List.forall_mem_nil _))]
  rfl

end Harvest.Text
