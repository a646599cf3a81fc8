import Mathlib.Tactic.Lemma
import SignedUpgrade.Json.Decode

/-!
# Records that are read are complete

A record may be written as an object or as a list of its fields.  Either way a field that is not
optional was read if the record was.

* `Json.Shape.Steady` — reading a field sets it, and reading other fields leaves it set;
* `Json.wantRecord_complete` — a record of a steady shape lacks no field.
-/

namespace SignedUpgrade.Json

/-- What is read in two steps is read in both of them. -/
lemma of_bind_eq_ok {ε α β : Type} {x : Except ε α} {f : α → Except ε β} {b : β}
    (h : x >>= f = .ok b) : ∃ a, x = .ok a ∧ f a = .ok b := by
  cases x with
  | error e => cases h
  | ok a => exact ⟨a, rfl, h⟩

lemma of_map_eq_ok {ε α β : Type} {x : Except ε α} {f : α → β} {b : β}
    (h : x.map f = .ok b) : ∃ a, x = .ok a ∧ f a = b := by
  cases x with
  | error e => cases h
  | ok a => exact ⟨a, rfl, Except.ok.inj h⟩

/-- Nothing is read where another value is wanted. -/
lemma refuse_ne_ok {α : Type} (wanted : String) (letters : Letters) (result : α × Letters) :
    refuse wanted letters ≠ .ok result := by
  intro h
  unfold refuse at h
  split at h
  · obtain ⟨_, _, h⟩ := of_bind_eq_ok h
    cases h
  · obtain ⟨_, _, h⟩ := of_bind_eq_ok h
    cases h
  · obtain ⟨_, _, h⟩ := of_bind_eq_ok h
    cases h
  · obtain ⟨_, _, h⟩ := of_bind_eq_ok h
    cases h
  · cases h
  · cases h
  · split at h
    · obtain ⟨_, _, h⟩ := of_bind_eq_ok h
      cases h
    · cases h
  · cases h

namespace Shape

variable {α : Type} {s : Shape α} {record result : α} {letters rest : Letters}

/-- Reading a field sets it, and whatever is set stays set when another field is read. -/
structure Steady (s : Shape α) : Prop where
  sets : ∀ {f : Field α} {record result : α} {letters rest : Letters}, f ∈ s.fields →
    f.want record letters = .ok (result, rest) → f.isSet result = true
  keeps : ∀ {f g : Field α} {record result : α} {letters rest : Letters}, f ∈ s.fields →
    g ∈ s.fields → f.want record letters = .ok (result, rest) → g.isSet record = true →
    g.isSet result = true

/-- The members of an object are read up to its end, where no field may be missing. -/
lemma members_complete {fuel : Nat} {first : Bool}
    (h : s.members fuel first record letters = .ok (result, rest)) : s.missing? result = none := by
  induction fuel generalizing first record letters with
  | zero => cases h
  | succ fuel ih =>
    obtain ⟨⟨more, letters'⟩, _, h⟩ := of_bind_eq_ok h
    cases more with
    | true =>
      obtain ⟨⟨name, letters⟩, _, h⟩ := of_bind_eq_ok h
      obtain ⟨⟨record', letters⟩, _, h⟩ := of_bind_eq_ok h
      exact ih h
    | false =>
      cases missing : s.missing? record with
      | some field => simp [missing] at h
      | none =>
        simp only [missing, Bool.false_eq_true, if_false] at h
        cases h
        exact missing

/-- The fields of a list are read in order, and a field that is not optional must be there. -/
lemma inOrder_complete (steady : s.Steady) {count : Nat} {fields : List (Field α)}
    (ours : fields ⊆ s.fields) (h : s.inOrder count fields record letters = .ok (result, rest)) :
    (∀ f ∈ s.fields, f.isSet record = true → f.isSet result = true)
      ∧ ∀ f ∈ fields, f.optional = false → f.isSet result = true := by
  induction fields generalizing count record letters with
  | nil =>
    cases h
    exact ⟨fun _ _ set => set, by simp⟩
  | cons field fields ih =>
    obtain ⟨here, others⟩ := List.cons_subset.1 ours
    obtain ⟨⟨more, letters'⟩, _, h⟩ := of_bind_eq_ok h
    cases more with
    | true =>
      obtain ⟨⟨record', letters⟩, read, h⟩ := of_bind_eq_ok h
      obtain ⟨kept, complete⟩ := ih others h
      refine ⟨fun f mem set => kept f mem (steady.keeps here mem read set), ?_⟩
      exact List.forall_mem_cons.2 ⟨fun _ => kept field here (steady.sets here read), complete⟩
    | false =>
      simp only [Bool.false_eq_true, if_false] at h
      cases optional : field.optional with
      | false => simp [optional] at h
      | true =>
        rw [optional, if_pos rfl] at h
        obtain ⟨kept, complete⟩ := ih others h
        refine ⟨kept, List.forall_mem_cons.2 ⟨fun required => ?_, complete⟩⟩
        rw [optional] at required
        cases required

end Shape

/-- **A record that was read lacks no field.** -/
theorem wantRecord_complete {α : Type} {s : Shape α} (steady : s.Steady) {result : α}
    {letters rest : Letters} (h : wantRecord s letters = .ok (result, rest)) :
    ∀ f ∈ s.fields, f.optional = false → f.isSet result = true := by
  unfold wantRecord at h
  split at h
  · obtain ⟨⟨record, letters⟩, read, h⟩ := of_bind_eq_ok h
    obtain ⟨letters', _, h⟩ := of_bind_eq_ok h
    cases h
    exact (Shape.inOrder_complete steady (List.Subset.refl _) read).2
  · obtain ⟨⟨record, letters⟩, read, h⟩ := of_bind_eq_ok h
    obtain ⟨letters', _, h⟩ := of_bind_eq_ok h
    cases h
    intro f mem required
    have complete := List.find?_eq_none.1 (Shape.members_complete read) f mem
    simpa [required] using complete
  · exact absurd h (refuse_ne_ok _ _ _)

end SignedUpgrade.Json
