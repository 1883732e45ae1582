/-
Module: VirtLifecycle.Proofs.Plan.Alike
Purpose: Plans that differ in their results only. Two plans are alike if they make the same calls at the same
  times, whatever the replies, and come to results that are related; then so do their runs, whoever answers
  them, and both leave whoever answers in one state.
Main exports: Plan.Alike, Plan.Alike.bind, Plan.Alike.run
-/
import VirtLifecycle.Proofs.Plan.Run

namespace VirtLifecycle.Plan

variable {Call : Type} {Reply : Call → Type} {α β γ δ σ : Type} {R : α → β → Prop} {S : γ → δ → Prop}

/-- The plans make the same calls, and `R` relates their results. -/
inductive Alike (R : α → β → Prop) : Plan Call Reply α → Plan Call Reply β → Prop where
  | done {a : α} {b : β} (related : R a b) : Alike R (.done a) (.done b)
  | endless : Alike R .endless .endless
  | ask {time : Nat} {call : Call} {next : Reply call → Duration → Plan Call Reply α}
      {next' : Reply call → Duration → Plan Call Reply β}
      (rest : ∀ reply takes, Alike R (next reply takes) (next' reply takes)) :
      Alike R (.ask time call next) (.ask time call next')

namespace Alike

variable {p : Plan Call Reply α} {q : Plan Call Reply β}

/-- A plan is like itself. -/
theorem refl (p : Plan Call Reply α) : Alike Eq p p := by
  induction p with
  | done result => exact .done rfl
  | endless => exact .endless
  | ask time call next ih => exact .ask ih

theorem mono {R' : α → β → Prop} (h : Alike R p q) (wider : ∀ a b, R a b → R' a b) : Alike R' p q := by
  induction h with
  | done related => exact .done (wider _ _ related)
  | endless => exact .endless
  | ask rest ih => exact .ask ih

/-- Plans that are alike, and go on to plans that are alike, are alike as a whole. -/
theorem bind {f : α → Plan Call Reply γ} {g : β → Plan Call Reply δ} (h : Alike R p q)
    (later : ∀ a b, R a b → Alike S (f a) (g b)) : Alike S (p.bind f) (q.bind g) := by
  induction h with
  | done related => exact later _ _ related
  | endless => exact .endless
  | ask rest ih => exact .ask ih

/-- The runs of plans that are alike make the same calls, leave whoever answers them in the same state, and
come to related results. -/
theorem run (h : Alike R p q) (respond : Responder Call Reply σ) (state : σ) :
    (q.run respond state).calls = (p.run respond state).calls ∧
      (q.run respond state).final = (p.run respond state).final ∧
      Option.Rel R (p.run respond state).result (q.run respond state).result := by
  induction h generalizing state with
  | done related => exact ⟨rfl, rfl, .some related⟩
  | endless => exact ⟨rfl, rfl, .none⟩
  | @ask time call next next' rest ih =>
    obtain ⟨calls, final, result⟩ := ih (respond state time call).1.1 (respond state time call).1.2
      (respond state time call).2
    exact ⟨congrArg ((time, call) :: ·) calls, final, result⟩

end Alike

end VirtLifecycle.Plan
