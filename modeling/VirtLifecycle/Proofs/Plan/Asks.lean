/-
Module: VirtLifecycle.Proofs.Plan.Asks
Purpose: Which calls a plan can make. A plan only asks certain calls if all calls in its tree are such
  calls, whatever the replies; then so are the calls of its runs, whoever answers them, and what no such
  call changes about whoever answers stays as it was.
Main exports: Plan.OnlyAsks, Plan.OnlyAsks.bind, Plan.OnlyAsks.calls, Plan.OnlyAsks.final
-/
import VirtLifecycle.Proofs.Plan.Run

namespace VirtLifecycle.Plan

variable {Call : Type} {Reply : Call → Type} {α β σ : Type} {P Q : Call → Prop}

/-- All calls that a plan can come to make are allowed. -/
inductive OnlyAsks (P : Call → Prop) : Plan Call Reply α → Prop where
  | done (result : α) : OnlyAsks P (.done result)
  | endless : OnlyAsks P .endless
  | ask {time : Nat} {call : Call} {next : Reply call → Duration → Plan Call Reply α}
      (allowed : P call) (rest : ∀ reply takes, OnlyAsks P (next reply takes)) :
      OnlyAsks P (.ask time call next)

namespace OnlyAsks

variable {plan : Plan Call Reply α}

theorem mono (h : OnlyAsks P plan) (wider : ∀ call, P call → Q call) : OnlyAsks Q plan := by
  induction h with
  | done result => exact .done result
  | endless => exact .endless
  | ask allowed rest ih => exact .ask (wider _ allowed) ih

theorem bind {f : α → Plan Call Reply β} (h : OnlyAsks P plan) (later : ∀ a, OnlyAsks P (f a)) :
    OnlyAsks P (plan.bind f) := by
  induction h with
  | done result => exact later result
  | endless => exact .endless
  | ask allowed rest ih => exact .ask allowed ih

theorem map (h : OnlyAsks P plan) (f : α → β) : OnlyAsks P (plan.map f) :=
  h.bind fun a => .done (f a)

/-- The calls of every run are allowed. -/
theorem calls (h : OnlyAsks P plan) (respond : Responder Call Reply σ) (state : σ) :
    ∀ call ∈ (plan.run respond state).calls, P call.2 := by
  induction h generalizing state with
  | done result => exact fun call made => absurd made List.not_mem_nil
  | endless => exact fun call made => absurd made List.not_mem_nil
  | ask allowed rest ih =>
    intro call made
    rw [run_ask, Run.calls_after] at made
    rcases List.mem_cons.mp made with rfl | later
    · exact allowed
    · exact ih _ _ _ call later

/-- What no allowed call changes about whoever answers is as before when a run is over. -/
theorem final {I : σ → Prop} (h : OnlyAsks P plan) {respond : Responder Call Reply σ}
    (keeps : ∀ state time call, P call → I state → I (respond state time call).2) {state : σ}
    (before : I state) : I (plan.run respond state).final := by
  induction h generalizing state with
  | done result => exact before
  | endless => exact before
  | ask allowed rest ih =>
    rw [run_ask, Run.final_after]
    exact ih _ _ (keeps state _ _ allowed before)

end OnlyAsks

end VirtLifecycle.Plan
