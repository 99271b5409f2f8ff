import Mathlib.Data.List.Forall2

/-!
# Outcomes

A computation in `Except` gives a value or a fault.  These laws take a
successful sequence apart into its successful steps.
-/

namespace PrintProxy

variable {ε α β : Type}

theorem bind_eq_ok_iff {first : Except ε α} {next : α → Except ε β} {result : β} :
    first >>= next = .ok result ↔ ∃ value, first = .ok value ∧ next value = .ok result := by
  cases first with
  | ok value =>
      constructor
      · intro success
        exact ⟨value, rfl, success⟩
      · intro steps
        obtain ⟨_, same, success⟩ := steps
        cases same
        exact success
  | error cause =>
      constructor
      · intro success
        cases success
      · intro steps
        obtain ⟨_, same, _⟩ := steps
        cases same

theorem pure_eq_ok_iff {value result : α} :
    (pure value : Except ε α) = .ok result ↔ value = result := by
  constructor
  · intro same
    cases same
    rfl
  · intro same
    rw [same]
    rfl

theorem toOption_eq_some_iff {outcome : Except ε α} {value : α} :
    outcome.toOption = some value ↔ outcome = .ok value := by
  cases outcome <;> simp [Except.toOption]

/-- What is done to each item succeeds with the results that the items give one by one. -/
theorem mapM_eq_ok_iff {read : α → Except ε β} {items : List α}
    {results : List β} :
    items.mapM read = .ok results ↔
      List.Forall₂ (fun item result => read item = .ok result) items results := by
  induction items generalizing results with
  | nil =>
      rw [List.mapM_nil, List.forall₂_nil_left_iff]
      exact pure_eq_ok_iff.trans eq_comm
  | cons item items ih =>
      rw [List.mapM_cons, bind_eq_ok_iff, List.forall₂_cons_left_iff]
      simp only [bind_eq_ok_iff, pure_eq_ok_iff, ih]
      constructor
      · rintro ⟨result, first, others, rest, rfl⟩
        exact ⟨result, others, first, rest, rfl⟩
      · rintro ⟨result, others, first, rest, rfl⟩
        exact ⟨result, first, others, rest, rfl⟩

end PrintProxy
