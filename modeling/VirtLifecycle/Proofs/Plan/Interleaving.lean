/-
Module: VirtLifecycle.Proofs.Plan.Interleaving
Purpose: Two plans that are carried out side by side. Whoever answers takes their calls in any order that
  keeps the order within each plan. If a part of the state is reserved for one plan, that plan comes to
  what it comes to alone.
Main exports: Plan.Interleaved, Plan.Reserves, Plan.Interleaved.left_alone,
  Plan.Interleaved.final
-/
import VirtLifecycle.Proofs.Plan.Asks

namespace VirtLifecycle.Plan

variable {Call : Type} {Reply : Call → Type} {α β σ : Type}

/-- A plan that makes no more calls, with its result, unless it is endless. -/
inductive Ended : Plan Call Reply α → Option α → Prop where
  | done (result : α) : Ended (.done result) (some result)
  | endless : Ended .endless none

/-- What two plans come to when their calls are answered in turns, from a state on. Each run has the
result and the calls of one plan, and both have the state that is left in the end. -/
inductive Interleaved (respond : Responder Call Reply σ) :
    σ → Plan Call Reply α → Plan Call Reply β → Run Call σ α → Run Call σ β → Prop where
  | ended {state : σ} {p : Plan Call Reply α} {q : Plan Call Reply β} {a : Option α} {b : Option β}
      (first : p.Ended a) (second : q.Ended b) :
      Interleaved respond state p q ⟨a, [], state⟩ ⟨b, [], state⟩
  | left {state : σ} {time : Nat} {call : Call} {next : Reply call → Duration → Plan Call Reply α}
      {q : Plan Call Reply β} {run : Run Call σ α} {other : Run Call σ β}
      (rest : Interleaved respond (respond state time call).2
        (next (respond state time call).1.1 (respond state time call).1.2) q run other) :
      Interleaved respond state (.ask time call next) q (run.after (time, call)) other
  | right {state : σ} {time : Nat} {call : Call} {p : Plan Call Reply α}
      {next : Reply call → Duration → Plan Call Reply β} {other : Run Call σ α} {run : Run Call σ β}
      (rest : Interleaved respond (respond state time call).2 p
        (next (respond state time call).1.1 (respond state time call).1.2) other run) :
      Interleaved respond state p (.ask time call next) other (run.after (time, call))

/-- Whoever answers reserves a part of its state for calls in `P`: how they are answered and what they
do to that part depends on that part only, and no call in `Q` changes it. `Like` says that two states
have the part in common. -/
structure Reserves (respond : Responder Call Reply σ) (P Q : Call → Prop) (Like : σ → σ → Prop) :
    Prop where
  own : ∀ {state alone : σ} (time : Nat) (call : Call), P call → Like state alone →
    (respond state time call).1 = (respond alone time call).1 ∧
      Like (respond state time call).2 (respond alone time call).2
  other : ∀ {state alone : σ} (time : Nat) (call : Call), Q call → Like state alone →
    Like (respond state time call).2 alone

namespace Interleaved

variable {respond : Responder Call Reply σ} {state : σ} {p : Plan Call Reply α}
  {q : Plan Call Reply β} {first : Run Call σ α} {second : Run Call σ β} {P Q : Call → Prop}

theorem swap (joint : Interleaved respond state p q first second) :
    Interleaved respond state q p second first := by
  induction joint with
  | ended first second => exact .ended second first
  | left rest ih => exact .right ih
  | right rest ih => exact .left ih

/-- The second plan can wait until the first one has ended. -/
theorem inTurn (respond : Responder Call Reply σ) (state : σ) (p : Plan Call Reply α)
    (q : Plan Call Reply β) :
    Interleaved respond state p q
      { p.run respond state with final := (q.run respond (p.run respond state).final).final }
      (q.run respond (p.run respond state).final) := by
  have alone : ∀ {p : Plan Call Reply α} {a : Option α} (state : σ), p.Ended a →
      Interleaved respond state p q ⟨a, [], (q.run respond state).final⟩ (q.run respond state) := by
    intro p a state ended
    induction q generalizing state with
    | done result => exact .ended ended (.done result)
    | endless => exact .ended ended .endless
    | ask time call next ih => exact .right (ih _ _ _)
  induction p generalizing state with
  | done result => exact alone state (.done result)
  | endless => exact alone state .endless
  | ask time call next ih => exact .left (ih _ _ _)

theorem final_eq (joint : Interleaved respond state p q first second) :
    first.final = second.final := by
  induction joint with
  | ended first second => rfl
  | left rest ih => exact ih
  | right rest ih => exact ih

/-- The first plan comes to what it comes to alone, if a part of the state is reserved for it. -/
theorem left_alone {Like : σ → σ → Prop} {alone : σ}
    (joint : Interleaved respond state p q first second) (reserves : Reserves respond P Q Like)
    (own : p.OnlyAsks P) (others : q.OnlyAsks Q) (alike : Like state alone) :
    first.result = (p.run respond alone).result ∧ first.calls = (p.run respond alone).calls ∧
      Like first.final (p.run respond alone).final := by
  induction joint generalizing alone with
  | ended first second =>
    cases first with
    | done result => exact ⟨rfl, rfl, alike⟩
    | endless => exact ⟨rfl, rfl, alike⟩
  | @left state time call next q run other rest ih =>
    cases own with
    | ask allowed later =>
      obtain ⟨answer, alike⟩ := reserves.own time call allowed alike
      obtain ⟨result, calls, final⟩ := ih (later _ _) others alike
      rw [run_ask, ← answer]
      exact ⟨result, congrArg ((time, call) :: ·) calls, final⟩
  | @right state time call p next other run rest ih =>
    cases others with
    | ask allowed later => exact ih own (later _ _) (reserves.other time call allowed alike)

/-- What no call of either plan changes about whoever answers is as before in the end. -/
theorem final {I : σ → Prop} (joint : Interleaved respond state p q first second)
    (own : p.OnlyAsks P) (others : q.OnlyAsks P)
    (keeps : ∀ state time call, P call → I state → I (respond state time call).2)
    (before : I state) : I first.final := by
  induction joint with
  | ended first second => exact before
  | @left state time call next q run other rest ih =>
    cases own with
    | ask allowed later => exact ih (later _ _) others (keeps state time call allowed before)
  | @right state time call p next other run rest ih =>
    cases others with
    | ask allowed later => exact ih own (later _ _) (keeps state time call allowed before)

end Interleaved

end VirtLifecycle.Plan
