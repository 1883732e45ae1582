/-
Module: VirtLifecycle.Proofs.Except
Purpose: What a computation that may fail comes to, in terms of its parts.
Main exports: Except.bind_eq_ok_iff, Except.bind_eq_error_iff, Except.mapError_eq_ok_iff,
  Except.mapError_eq_error_iff
-/

namespace VirtLifecycle

/-- Two steps succeed just if the first does, and the second does with its result. -/
theorem Except.bind_eq_ok_iff {ε α β : Type} (x : Except ε α) (f : α → Except ε β) (b : β) :
    (x >>= f) = .ok b ↔ ∃ a, x = .ok a ∧ f a = .ok b := by
  cases x with
  | error e =>
    refine iff_of_false (fun equal => nomatch equal) ?_
    rintro ⟨a, equal, _⟩
    cases equal
  | ok a =>
    constructor
    · intro rest
      exact ⟨a, rfl, rest⟩
    · rintro ⟨a', equal, rest⟩
      cases equal
      exact rest

/-- Two steps fail just if the first does, or if it succeeds and the second fails with its result. -/
theorem Except.bind_eq_error_iff {ε α β : Type} (x : Except ε α) (f : α → Except ε β) (e : ε) :
    (x >>= f) = .error e ↔ x = .error e ∨ ∃ a, x = .ok a ∧ f a = .error e := by
  cases x with
  | error e' =>
    constructor
    · rintro ⟨⟩
      exact .inl rfl
    · rintro (⟨⟨⟩⟩ | ⟨a, ⟨⟩, _⟩)
      rfl
  | ok a =>
    constructor
    · intro rest
      exact .inr ⟨a, rfl, rest⟩
    · rintro (⟨⟨⟩⟩ | ⟨a', equal, rest⟩)
      cases equal
      exact rest

theorem Except.mapError_eq_ok_iff {ε ε' α : Type} (x : Except ε α) (f : ε → ε') (a : α) :
    x.mapError f = .ok a ↔ x = .ok a := by
  cases x with
  | error e => exact iff_of_false nofun nofun
  | ok a' =>
    constructor
    · rintro ⟨⟩
      rfl
    · rintro ⟨⟩
      rfl

theorem Except.mapError_eq_error_iff {ε ε' α : Type} (x : Except ε α) (f : ε → ε') (e' : ε') :
    x.mapError f = .error e' ↔ ∃ e, x = .error e ∧ e' = f e := by
  cases x with
  | error e =>
    constructor
    · rintro ⟨⟩
      exact ⟨e, rfl, rfl⟩
    · rintro ⟨_, ⟨⟩, rfl⟩
      rfl
  | ok a =>
    refine iff_of_false nofun ?_
    rintro ⟨e, ⟨⟩, -⟩

end VirtLifecycle
