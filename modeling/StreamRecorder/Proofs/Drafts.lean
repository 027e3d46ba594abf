import StreamRecorder.Proofs.Meanings

namespace StreamRecorder.Json

/-- Where a draft `δ` keeps the fields `ι` of a record, and how they are read. -/
structure Slots (ι δ : Type) where
  key : ι → String
  Field : ι → Type
  held : ∀ i, δ → Option (Field i)
  put : ∀ i, δ → Field i → δ
  reader : ∀ i, Reader (Field i)
  meaning : ∀ i, Value → Option (Field i)
  reads : ∀ i, Reads (reader i) (meaning i)
  key_injective : Function.Injective key
  held_put : ∀ i draft value, held i (put i draft value) = some value
  held_put_of_ne : ∀ {i j}, i ≠ j → ∀ draft value, held j (put i draft value) = held j draft
  put_comm : ∀ {i j}, i ≠ j → ∀ draft first second,
    put j (put i draft first) second = put i (put j draft second) first

variable {ι δ α : Type}

def Slots.into (slots : Slots ι δ) (i : ι) (draft : δ) : Reader δ :=
  (slots.reader i).map (slots.put i draft)

structure Shape.Follows (shape : Shape δ α) (slots : Slots ι δ) : Prop where
  known : ∀ i draft, shape.member draft (slots.key i) =
    once (slots.key i) (slots.held i draft) (slots.into i draft)
  unknown : ∀ draft key, (∀ i, slots.key i ≠ key) → shape.member draft key = .ok none
  element : ∀ field ∈ shape.elements, ∃ i, field = slots.into i

namespace Slots

variable (slots : Slots ι δ)

def fill (i : ι) (draft : δ) (value : Value) : Option δ :=
  if (slots.held i draft).isSome then none else (slots.meaning i value).map (slots.put i draft)

variable {slots} {i j : ι} {draft : δ}

theorem fill_comm (apart : i ≠ j) (draft : δ) (first second : Value) :
    (slots.fill i draft first).bind (slots.fill j · second) =
      (slots.fill j draft second).bind (slots.fill i · first) := by
  have back := apart.symm
  unfold fill
  cases heldFirst : slots.held i draft <;> cases heldSecond : slots.held j draft <;>
    cases slots.meaning i first <;> cases slots.meaning j second <;>
    simp [heldFirst, heldSecond, slots.held_put_of_ne apart, slots.held_put_of_ne back,
      slots.put_comm apart]

theorem fill_twice (draft : δ) (first second : Value) :
    (slots.fill i draft first).bind (slots.fill i · second) = none := by
  unfold fill
  cases slots.held i draft <;> cases slots.meaning i first <;> simp [slots.held_put]

end Slots

namespace Shape

variable {shape : Shape δ α} {slots : Slots ι δ} {draft : δ}

theorem Follows.steadyFields (follows : shape.Follows slots) : shape.SteadyFields where
  member draft key reader told := by
    by_cases named : ∃ i, slots.key i = key
    · obtain ⟨i, rfl⟩ := named
      rw [follows.known, once] at told
      split at told
      · cases told
      · cases told
        exact ((slots.reads i).map _).steady
    · rw [follows.unknown draft key fun i same => named ⟨i, same⟩] at told
      cases told
  element field member draft := by
    obtain ⟨i, rfl⟩ := follows.element field member
    exact ((slots.reads i).map _).steady

theorem Follows.field_key (follows : shape.Follows slots) (i : ι) (draft : δ) (value : Value) :
    shape.field draft (slots.key i) value = slots.fill i draft value := by
  rw [field, follows.known, once, Slots.fill]
  split_ifs
  · rfl
  · exact ((slots.reads i).map (slots.put i draft)).on_eq value

theorem Follows.field_other (follows : shape.Follows slots) {key : String}
    (other : ∀ i, slots.key i ≠ key) (draft : δ) (value : Value) :
    shape.field draft key value = some draft := by
  rw [field, follows.unknown draft key other]
  rfl

theorem Follows.field_comm (follows : shape.Follows slots) (draft : δ) (first second : String)
    (value other : Value) :
    (shape.field draft first value).bind (shape.field · second other) =
      (shape.field draft second other).bind (shape.field · first value) := by
  by_cases named : ∃ i, slots.key i = first
  · obtain ⟨i, rfl⟩ := named
    by_cases named : ∃ j, slots.key j = second
    · obtain ⟨j, rfl⟩ := named
      simp only [follows.field_key]
      by_cases same : i = j
      · rw [same, Slots.fill_twice, Slots.fill_twice]
      · exact Slots.fill_comm same draft value other
    · simp [follows.field_other fun j same => named ⟨j, same⟩]
  · simp [follows.field_other fun i same => named ⟨i, same⟩]

theorem Follows.step_comm (follows : shape.Follows slots) (draft : δ) (first second : Member) :
    (shape.step draft first).bind (shape.step · second) =
      (shape.step draft second).bind (shape.step · first) := by
  unfold step
  cases Piece.string? first.1 with
  | none => simp
  | some key =>
      cases Piece.string? second.1 with
      | none => simp
      | some other => exact follows.field_comm draft key other first.2 second.2

theorem Follows.gather_perm (follows : shape.Follows slots) {members changed : List Member}
    (perm : members.Perm changed) (draft : δ) :
    shape.gather draft members = shape.gather draft changed := by
  induction perm generalizing draft with
  | nil => rfl
  | cons member perm ih => simp only [gather_cons, ih]
  | swap first second more =>
      simp only [gather_cons, ← Option.bind_assoc]
      rw [follows.step_comm]
  | trans _ _ ih₁ ih₂ => rw [ih₁, ih₂]

theorem gather_append (draft : δ) (members more : List Member) :
    shape.gather draft (members ++ more) =
      (shape.gather draft members).bind fun next => shape.gather next more :=
  List.foldlM_append

def Unknown (keys : ι → String) (member : Member) : Prop :=
  ∃ key, Piece.string? member.1 = some key ∧ ∀ i, keys i ≠ key

theorem Follows.gather_unknown (follows : shape.Follows slots) {others : List Member}
    (unknown : ∀ member ∈ others, Unknown slots.key member) (draft : δ) :
    shape.gather draft others = some draft := by
  induction others with
  | nil => rfl
  | cons member more ih =>
      obtain ⟨key, named, other⟩ := unknown member List.mem_cons_self
      have same : shape.step draft member = some draft := by
        rw [step, named]
        exact follows.field_other other draft member.2
      rw [gather_cons, same]
      exact ih fun member later => unknown member (List.mem_cons_of_mem _ later)

end Shape

def Padded (keys : ι → String) (members changed : List Member) : Prop :=
  ∃ others, (∀ member ∈ others, Shape.Unknown keys member) ∧ changed.Perm (members ++ others)

namespace Shape

variable {shape : Shape δ α} {slots : Slots ι δ} {draft : δ}

theorem Follows.gather_padded (follows : shape.Follows slots) {members changed : List Member}
    (padded : Padded slots.key members changed) (draft : δ) :
    shape.gather draft changed = shape.gather draft members := by
  obtain ⟨others, unknown, perm⟩ := padded
  rw [follows.gather_perm perm, gather_append]
  cases shape.gather draft members with
  | none => rfl
  | some next => exact follows.gather_unknown unknown next

end Shape

def Slots.Binds (slots : Slots ι δ) (full : δ) (i : ι) (member : Member) : Prop :=
  Piece.string? member.1 = some (slots.key i) ∧
    ∃ value, slots.held i full = some value ∧ slots.meaning i member.2 = some value

theorem Shape.Follows.gather_of_binds {shape : Shape δ α} {slots : Slots ι δ}
    (follows : shape.Follows slots) {full : δ} {fields : List ι} {members : List Member}
    (distinct : fields.Nodup) (binds : List.Forall₂ (slots.Binds full) fields members) (draft : δ)
    (empty : ∀ i ∈ fields, slots.held i draft = none) :
    ∃ filled, shape.gather draft members = some filled ∧
      (∀ i ∈ fields, slots.held i filled = slots.held i full) ∧
      ∀ i, i ∉ fields → slots.held i filled = slots.held i draft := by
  -- The draft varies: the slots of the fields that are still to come stay empty in it.
  induction binds generalizing draft with
  | nil => exact ⟨draft, rfl, by simp, fun _ _ => rfl⟩
  | @cons i member fields members bound binds ih =>
      obtain ⟨absent, distinct⟩ := List.nodup_cons.mp distinct
      obtain ⟨named, value, holds, meant⟩ := bound
      have filled : shape.step draft member = some (slots.put i draft value) := by
        rw [step, named]
        show shape.field draft (slots.key i) member.2 = _
        rw [follows.field_key, Slots.fill, empty i List.mem_cons_self, meant]
        rfl
      have others : ∀ j ∈ fields, i ≠ j := fun j later same => absent (same ▸ later)
      have empty : ∀ j ∈ fields, slots.held j (slots.put i draft value) = none := by
        intro j later
        rw [slots.held_put_of_ne (others j later)]
        exact empty j (List.mem_cons_of_mem _ later)
      obtain ⟨final, gathered, held, kept⟩ := ih distinct _ empty
      refine ⟨final, ?_, ?_, ?_⟩
      · rw [gather_cons, filled]
        exact gathered
      · intro j chosen
        rcases List.mem_cons.mp chosen with rfl | later
        · rw [kept j absent, slots.held_put, holds]
        · exact held j later
      · intro j other
        rw [kept j (List.not_mem_of_not_mem_cons other),
          slots.held_put_of_ne (List.ne_of_not_mem_cons other).symm]

end StreamRecorder.Json
