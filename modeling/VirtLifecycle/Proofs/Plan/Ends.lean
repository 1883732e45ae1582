/-
Module: VirtLifecycle.Proofs.Plan.Ends
Purpose: Which results a plan can come to. If only certain replies come, a plan only ends in certain results
  if all results in its tree that such replies lead to are such results; then so is the result of its runs,
  by whoever gives no other replies.
Main exports: Plan.OnlyEnds, Plan.OnlyEnds.bind, Plan.OnlyEnds.map, Plan.OnlyEnds.result
-/
import VirtLifecycle.Proofs.Plan.Run

namespace VirtLifecycle.Plan

variable {Call : Type} {Reply : Call → Type} {α β σ : Type} {R : (call : Call) → Reply call → Prop}
  {P P' : α → Prop} {Q : β → Prop}

/-- All results that a plan can come to by the given replies are allowed. -/
inductive OnlyEnds (R : (call : Call) → Reply call → Prop) (P : α → Prop) :
    Plan Call Reply α → Prop where
  | done {result : α} (allowed : P result) : OnlyEnds R P (.done result)
  | endless : OnlyEnds R P .endless
  | ask {time : Nat} {call : Call} {next : Reply call → Duration → Plan Call Reply α}
      (rest : ∀ reply takes, R call reply → OnlyEnds R P (next reply takes)) :
      OnlyEnds R P (.ask time call next)

namespace OnlyEnds

variable {plan : Plan Call Reply α}

theorem mono (h : OnlyEnds R P plan) (wider : ∀ result, P result → P' result) : OnlyEnds R P' plan := by
  induction h with
  | done allowed => exact .done (wider _ allowed)
  | endless => exact .endless
  | ask rest ih => exact .ask ih

/-- If the first plan only ends in some ways, and from these the second only ends in others, then the whole
only ends in the latter. -/
theorem bind {f : α → Plan Call Reply β} (h : OnlyEnds R P plan)
    (later : ∀ result, P result → OnlyEnds R Q (f result)) : OnlyEnds R Q (plan.bind f) := by
  induction h with
  | done allowed => exact later _ allowed
  | endless => exact .endless
  | ask rest ih => exact .ask ih

theorem map {f : α → β} (h : OnlyEnds R P plan) (changed : ∀ result, P result → Q (f result)) :
    OnlyEnds R Q (plan.map f) :=
  h.bind fun result allowed => .done (changed result allowed)

/-- The result of every run is allowed. -/
theorem result (h : OnlyEnds R P plan) {respond : Responder Call Reply σ}
    (replies : ∀ state time call, R call (respond state time call).1.1) (state : σ) {result : α}
    (ended : (plan.run respond state).result = some result) : P result := by
  induction h generalizing state with
  | done allowed =>
    cases ended
    exact allowed
  | endless => cases ended
  | @ask time call next rest ih =>
    rw [run_ask, Run.result_after] at ended
    exact ih _ _ (replies state time call) _ ended

end OnlyEnds

end VirtLifecycle.Plan
