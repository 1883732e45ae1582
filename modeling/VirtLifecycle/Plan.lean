/-
Module: VirtLifecycle.Plan
Purpose: Operations as data. A plan is finished, or asks a call at some time and goes on according to
  the reply and how long it took. Whoever answers the calls can be anything: a cluster in memory, a
  server behind a connection, a script. A plan that would go on for ever without time passing is
  `endless`.
Specification: [SPEC 5 Concurrency and resource model]: the calls of one task are strictly sequential,
  and between two of them the task only sleeps.
Main exports: Plan, Plan.bind, Plan.run, Plan.Run
-/
import VirtLifecycle.Time.Clock

namespace VirtLifecycle

/-- What is still to be done to come to an `α`. Times are readings of the clock. -/
inductive Plan (Call : Type) (Reply : Call → Type) (α : Type) where
  | done (result : α)
  | ask (time : Nat) (call : Call) (next : Reply call → Duration → Plan Call Reply α)
  | endless

namespace Plan

variable {Call : Type} {Reply : Call → Type} {α β σ : Type}

/-- One plan after another. -/
def bind : Plan Call Reply α → (α → Plan Call Reply β) → Plan Call Reply β
  | done result, f => f result
  | ask time call next, f => ask time call fun reply takes => (next reply takes).bind f
  | endless, _ => endless

/-- The plan with its result changed. -/
def map (f : α → β) (plan : Plan Call Reply α) : Plan Call Reply β :=
  plan.bind fun a => done (f a)

/-- What answers calls: from its state, the time and the call it gives the reply, how long that takes
and its next state. -/
abbrev Responder (Call : Type) (Reply : Call → Type) (σ : Type) :=
  σ → Nat → (call : Call) → (Reply call × Duration) × σ

/-- What a plan came to: the result, unless the plan is endless; the calls with their times, in
order; and the state of whoever answered them. -/
structure Run (Call σ α : Type) where
  result : Option α
  calls : List (Nat × Call)
  final : σ

/-- Carries a plan out. -/
def run (respond : Responder Call Reply σ) (state : σ) : Plan Call Reply α → Run Call σ α
  | done result => ⟨some result, [], state⟩
  | endless => ⟨none, [], state⟩
  | ask time call next =>
    let ((reply, takes), state) := respond state time call
    let rest := run respond state (next reply takes)
    { rest with calls := (time, call) :: rest.calls }

@[simp] theorem bind_done (result : α) (f : α → Plan Call Reply β) :
    (done result : Plan Call Reply α).bind f = f result := rfl

@[simp] theorem bind_endless (f : α → Plan Call Reply β) :
    (endless : Plan Call Reply α).bind f = endless := rfl

@[simp] theorem bind_ask (time : Nat) (call : Call)
    (next : Reply call → Duration → Plan Call Reply α) (f : α → Plan Call Reply β) :
    (ask time call next).bind f = ask time call fun reply takes => (next reply takes).bind f := rfl

theorem bind_assoc {γ : Type} (plan : Plan Call Reply α) (f : α → Plan Call Reply β)
    (g : β → Plan Call Reply γ) : (plan.bind f).bind g = plan.bind fun a => (f a).bind g := by
  induction plan with
  | done result => rfl
  | endless => rfl
  | ask time call next ih => simp [ih]

@[simp] theorem bind_pure (plan : Plan Call Reply α) : plan.bind done = plan := by
  induction plan with
  | done result => rfl
  | endless => rfl
  | ask time call next ih => simp [ih]

end Plan

end VirtLifecycle
