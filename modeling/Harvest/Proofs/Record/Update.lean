import Harvest.Record.Basic

/-!
# How Records Change

A record is made of *cells*: a dynamic record has one for every name, and a declared one has one
for every field. What storing a text does to a cell is settled before the record is known: a list
may get an item, and any other cell may get a new value in the place of the old one. These two
kinds of changes, `Extends` and `Overwrites`, are closed under doing one after the other, so that
any number of stores comes to one change of each cell.

## Main results

* `RecordType.assign_cases`: a text is refused by all records of a type, or it is stored by an
  update, the same for all of them.
* `RecordType.assign_error_iff`: a refusal does not depend on what a record holds.
* `RecordType.Updates.comp`: two updates after one another are an update.
* `RecordType.updates_storeAll`: storing texts one after the other is an update.
* `FieldType.IsUpdate.repeats`: what an update does to a field when it is made twice.
-/

namespace Harvest.Record

/-! ### Changes of a value -/

section

variable {α : Type}

/-- A change that puts one value in the place of every value, or leaves every value as it is. -/
def Overwrites (g : α → α) : Prop :=
  (∀ a, g a = a) ∨ ∃ b, ∀ a, g a = b

/-- A change that appends the same items to every list. -/
def Extends (g : List α → List α) : Prop :=
  ∃ added, ∀ as, g as = as ++ added

/-- One overwriting after another is one. -/
theorem Overwrites.comp {f g : α → α} (hg : Overwrites g) (hf : Overwrites f) :
    Overwrites (g ∘ f) := by
  rcases hg with hg | ⟨b, hg⟩
  · rcases hf with hf | ⟨a, hf⟩
    · exact .inl fun x => (hg (f x)).trans (hf x)
    · exact .inr ⟨a, fun x => (hg (f x)).trans (hf x)⟩
  · exact .inr ⟨b, fun x => hg (f x)⟩

/-- One extension after another is one. -/
theorem Extends.comp {f g : List α → List α} (hg : Extends g) (hf : Extends f) :
    Extends (g ∘ f) := by
  obtain ⟨first, hf⟩ := hf
  obtain ⟨second, hg⟩ := hg
  refine ⟨first ++ second, fun as => ?_⟩
  calc g (f as) = f as ++ second := hg (f as)
    _ = as ++ first ++ second := by rw [hf]
    _ = as ++ (first ++ second) := List.append_assoc as first second

/-- To overwrite a second time makes no difference. -/
theorem Overwrites.apply_apply {g : α → α} (h : Overwrites g) (a : α) : g (g a) = g a := by
  rcases h with h | ⟨b, h⟩
  · exact h (g a)
  · exact (h (g a)).trans (h a).symm

end

/-! ### Changes of a field -/

/-- The changes that stores make to a field: a list is extended, and any other value is
overwritten. -/
def FieldType.IsUpdate : (t : FieldType) → (t.Value → t.Value) → Prop
  | .list _, g => Extends g
  | _, g => Overwrites g

/-- Leaving a value alone is an update. -/
theorem FieldType.IsUpdate.id (t : FieldType) : t.IsUpdate fun value => value := by
  cases t with
  | list item => exact ⟨[], fun as => (List.append_nil as).symm⟩
  | text | integer | float | option => exact .inl fun _ => rfl

/-- One update after another is one. -/
theorem FieldType.IsUpdate.comp {t : FieldType} {f g : t.Value → t.Value} (hg : t.IsUpdate g)
    (hf : t.IsUpdate f) : t.IsUpdate (g ∘ f) := by
  cases t with
  | list item => exact Extends.comp hg hf
  | text | integer | float | option => exact Overwrites.comp hg hf

/-- **A field** refuses a text, whatever it holds, or stores it by an update. -/
theorem FieldType.assign_cases (t : FieldType) (text : String) :
    (∃ e, ∀ old, t.assign old text = .error e) ∨
      ∃ g, t.IsUpdate g ∧ ∀ old, t.assign old text = .ok (g old) := by
  cases t with
  | text => exact .inr ⟨fun _ => text, .inr ⟨text, fun _ => rfl⟩, fun _ => rfl⟩
  | integer type =>
      cases h : coerceInteger type text with
      | error e => exact .inl ⟨e, fun _ => h⟩
      | ok value => exact .inr ⟨fun _ => value, .inr ⟨value, fun _ => rfl⟩, fun _ => h⟩
  | float size =>
      cases h : coerceFloat size text with
      | error e => exact .inl ⟨e, fun _ => h⟩
      | ok value => exact .inr ⟨fun _ => value, .inr ⟨value, fun _ => rfl⟩, fun _ => h⟩
  | list item =>
      cases h : item.assign item.default text with
      | error e => exact .inl ⟨e, fun old => by rw [FieldType.assign, h]; rfl⟩
      | ok value =>
          refine .inr ⟨fun old => old ++ [value], ⟨[value], fun _ => rfl⟩, fun old => ?_⟩
          rw [FieldType.assign, h]
          rfl
  | option item =>
      cases h : item.assign item.default text with
      | error e => exact .inl ⟨e, fun old => by rw [FieldType.assign, h]; rfl⟩
      | ok value =>
          refine .inr ⟨fun _ => some value, .inr ⟨some value, fun _ => rfl⟩, fun old => ?_⟩
          rw [FieldType.assign, h]
          rfl

/-- A field refuses a text for a reason that does not depend on what it holds. -/
theorem FieldType.assign_error_iff (t : FieldType) (old old' : t.Value) (text : String)
    (e : FieldError) : t.assign old text = .error e ↔ t.assign old' text = .error e := by
  rcases t.assign_cases text with ⟨e', herror⟩ | ⟨g, -, hok⟩
  · rw [herror old, herror old']
  · rw [hok old, hok old']
    exact ⟨nofun, nofun⟩

/-- What a field holds before a change, after it, and after making it again, for every record in
which the field may be: a list has got the same items once and twice, and nothing else shows
that the change was made twice. -/
def FieldType.Repeats {ρ : Type} : (t : FieldType) → (before once twice : ρ → t.Value) → Prop
  | .list item, before, once, twice =>
      ∃ added : List item.Value, ∀ r,
        once r = before r ++ added ∧ twice r = before r ++ added ++ added
  | _, _, once, twice => ∀ r, twice r = once r

/-- **An update that is made twice** overwrites once and extends twice. -/
theorem FieldType.IsUpdate.repeats {t : FieldType} {g : t.Value → t.Value} (h : t.IsUpdate g)
    {ρ : Type} (before : ρ → t.Value) :
    t.Repeats before (fun r => g (before r)) (fun r => g (g (before r))) := by
  cases t with
  | list item =>
      obtain ⟨added, hadded⟩ := h
      refine ⟨added, fun r => ⟨hadded (before r), ?_⟩⟩
      calc g (g (before r)) = g (before r) ++ added := hadded (g (before r))
        _ = before r ++ added ++ added := by rw [hadded (before r)]
  | text | integer | float | option => exact fun r => Overwrites.apply_apply h (before r)

/-! ### Rows -/

/-- The value of a field in a row. -/
def Row.value : (fields : List Field) → Row fields → (i : Fin fields.length) →
    (fields.get i).type.Value
  | _ :: _, (value, _), ⟨0, _⟩ => value
  | _ :: fs, (_, row), ⟨i + 1, h⟩ => Row.value fs row ⟨i, Nat.lt_of_succ_lt_succ h⟩

/-- A change of rows that is an update of every field. -/
def Row.Updates (fields : List Field) (step : Row fields → Row fields) : Prop :=
  ∀ i, ∃ g, (fields.get i).type.IsUpdate g ∧
    ∀ row, Row.value fields (step row) i = g (Row.value fields row i)

/-- A row changes by its first field and by the others. -/
theorem Row.Updates.cons {f : Field} {fs : List Field} {g : f.type.Value → f.type.Value}
    {step : Row fs → Row fs} (hg : f.type.IsUpdate g) (hstep : Row.Updates fs step) :
    Row.Updates (f :: fs) fun row => (g row.1, step row.2) := by
  rintro ⟨i, hi⟩
  cases i with
  | zero => exact ⟨g, hg, fun _ => rfl⟩
  | succ i =>
      obtain ⟨g', hg', hvalue⟩ := hstep ⟨i, Nat.lt_of_succ_lt_succ hi⟩
      exact ⟨g', hg', fun row => hvalue row.2⟩

theorem Row.Updates.id (fields : List Field) : Row.Updates fields fun row => row :=
  fun _ => ⟨fun value => value, .id _, fun _ => rfl⟩

/-- A row refuses a text, whatever it holds, or stores it by an update. -/
theorem Row.assign_cases (fields : List Field) (name text : String) :
    (∃ e, ∀ row, Row.assign fields row name text = .error e) ∨
      ∃ step, Row.Updates fields step ∧
        ∀ row, Row.assign fields row name text = .ok (step row) := by
  induction fields with
  | nil => exact .inl ⟨.unknownField name, fun _ => rfl⟩
  | cons f fs ih =>
      by_cases hname : name = f.target
      · rcases f.type.assign_cases text with ⟨e, herror⟩ | ⟨g, hg, hok⟩
        · refine .inl ⟨e, fun row => ?_⟩
          rw [Row.assign, if_pos hname, herror]
          rfl
        · refine .inr ⟨fun row => (g row.1, row.2), .cons hg (.id fs), fun row => ?_⟩
          rw [Row.assign, if_pos hname, hok]
          rfl
      · rcases ih with ⟨e, herror⟩ | ⟨step, hstep, hok⟩
        · refine .inl ⟨e, fun row => ?_⟩
          rw [Row.assign, if_neg hname, herror]
          rfl
        · refine .inr ⟨fun row => (row.1, step row.2), .cons (.id f.type) hstep, fun row => ?_⟩
          rw [Row.assign, if_neg hname, hok]
          rfl

/-! ### Records -/

/-- The cells of the records of a type: one for every name, or one for every field. -/
abbrev RecordType.Cell : RecordType → Type
  | .dynamic => String
  | .declared first rest => Fin (first :: rest).length

/-- What a cell can hold. -/
abbrev RecordType.Content : (τ : RecordType) → τ.Cell → Type
  | .dynamic, _ => Option String
  | .declared first rest, i => ((first :: rest).get i).type.Value

/-- What a cell of a record holds. -/
def RecordType.read : (τ : RecordType) → τ.Value → (c : τ.Cell) → τ.Content c
  | .dynamic, entries, name => Dictionary.get? entries name
  | .declared first rest, row, i => Row.value (first :: rest) row i

/-- The changes that stores make to a cell. -/
def RecordType.IsUpdate : (τ : RecordType) → (c : τ.Cell) → (τ.Content c → τ.Content c) → Prop
  | .dynamic, _, g => Overwrites g
  | .declared first rest, i, g => ((first :: rest).get i).type.IsUpdate g

/-- A change of records that is an update of every cell. -/
def RecordType.Updates (τ : RecordType) (step : τ.Value → τ.Value) : Prop :=
  ∀ c, ∃ g, τ.IsUpdate c g ∧ ∀ record, τ.read (step record) c = g (τ.read record c)

/-- Leaving a record alone updates it. -/
theorem RecordType.Updates.id (τ : RecordType) : τ.Updates fun record => record := by
  intro c
  refine ⟨fun content => content, ?_, fun _ => rfl⟩
  cases τ with
  | dynamic => exact .inl fun _ => rfl
  | declared first rest => exact .id _

/-- **Two updates** after one another are an update. -/
theorem RecordType.Updates.comp {τ : RecordType} {first second : τ.Value → τ.Value}
    (hsecond : τ.Updates second) (hfirst : τ.Updates first) :
    τ.Updates fun record => second (first record) := by
  intro c
  obtain ⟨f, hf, hreadf⟩ := hfirst c
  obtain ⟨g, hg, hreadg⟩ := hsecond c
  refine ⟨g ∘ f, ?_, fun record => ?_⟩
  · cases τ with
    | dynamic => exact Overwrites.comp hg hf
    | declared => exact FieldType.IsUpdate.comp hg hf
  · exact (hreadg (first record)).trans (congrArg g (hreadf record))

/-- Storing under a name overwrites what is there under this name. -/
theorem updates_insert (name text : String) :
    RecordType.Updates .dynamic fun entries => Dictionary.insert entries name text := by
  intro m
  by_cases h : m = name
  · refine ⟨fun _ => some text, .inr ⟨some text, fun _ => rfl⟩, fun entries => ?_⟩
    exact (Dictionary.get?_insert entries name m text).trans (if_pos h)
  · refine ⟨fun content => content, .inl fun _ => rfl, fun entries => ?_⟩
    exact (Dictionary.get?_insert entries name m text).trans (if_neg h)

/-- **A text** is refused by all records of a type, or it is stored by an update, the same for
all of them. -/
theorem RecordType.assign_cases (τ : RecordType) (name text : String) :
    (∃ e, ∀ record, τ.assign record name text = .error e) ∨
      ∃ step, τ.Updates step ∧ ∀ record, τ.assign record name text = .ok (step record) := by
  cases τ with
  | dynamic => exact .inr ⟨_, updates_insert name text, fun _ => rfl⟩
  | declared first rest => exact Row.assign_cases (first :: rest) name text

/-- A record refuses a text for a reason that does not depend on what it holds. -/
theorem RecordType.assign_error_iff (τ : RecordType) (record record' : τ.Value)
    (name text : String) (e : FieldError) :
    τ.assign record name text = .error e ↔ τ.assign record' name text = .error e := by
  rcases τ.assign_cases name text with ⟨e', herror⟩ | ⟨step, -, hok⟩
  · rw [herror record, herror record']
  · rw [hok record, hok record']
    exact ⟨nofun, nofun⟩

/-! ### Many stores -/

/-- Stores a text under a name. A record that refuses the text stays as it is. -/
def RecordType.store (τ : RecordType) (record : τ.Value) (write : String × String) : τ.Value :=
  match τ.assign record write.1 write.2 with
  | .ok record => record
  | .error _ => record

/-- Stores texts under names, one after the other. -/
def RecordType.storeAll (τ : RecordType) (writes : List (String × String)) (record : τ.Value) :
    τ.Value :=
  writes.foldl τ.store record

/-- Storing a text updates a record. -/
theorem RecordType.updates_store (τ : RecordType) (write : String × String) :
    τ.Updates fun record => τ.store record write := by
  unfold RecordType.store
  rcases τ.assign_cases write.1 write.2 with ⟨e, herror⟩ | ⟨step, hstep, hok⟩
  · simp only [herror]
    exact .id τ
  · simp only [hok]
    exact hstep

/-- **Many stores** are one update. -/
theorem RecordType.updates_storeAll (τ : RecordType) (writes : List (String × String)) :
    τ.Updates (τ.storeAll writes) := by
  induction writes with
  | nil => exact .id τ
  | cons write writes ih => exact ih.comp (τ.updates_store write)

end Harvest.Record
