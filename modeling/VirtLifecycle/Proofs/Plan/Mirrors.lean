/-
Module: VirtLifecycle.Proofs.Plan.Mirrors
Purpose: Plans that go on alike when replies are changed. If a plan mirrors another one under a change of
  replies, then answering the one with changed replies leads to the same calls at the same times and to
  the result of the other, changed.
Main exports: Plan.Mirrors, Plan.Mirrors.bind, Plan.Mirrors.run
-/
import VirtLifecycle.Proofs.Plan.Asks

namespace VirtLifecycle.Plan

variable {Call : Type} {Reply : Call → Type} {α β γ δ σ τ : Type}
  {change : (call : Call) → Reply call → Reply call}

/-- Given changed replies, the second plan makes the calls of the first one and comes to its result,
changed by `f`. -/
inductive Mirrors (change : (call : Call) → Reply call → Reply call) (f : α → β) :
    Plan Call Reply α → Plan Call Reply β → Prop where
  | done (result : α) : Mirrors change f (.done result) (.done (f result))
  | endless : Mirrors change f .endless .endless
  | ask {time : Nat} {call : Call} {next : Reply call → Duration → Plan Call Reply α}
      {next' : Reply call → Duration → Plan Call Reply β}
      (rest : ∀ reply takes, Mirrors change f (next reply takes) (next' (change call reply) takes)) :
      Mirrors change f (.ask time call next) (.ask time call next')

namespace Mirrors

variable {f : α → β} {p : Plan Call Reply α} {q : Plan Call Reply β}

theorem bind {g : γ → δ} {u : α → Plan Call Reply γ} {v : β → Plan Call Reply δ}
    (h : Mirrors change f p q) (later : ∀ a, Mirrors change g (u a) (v (f a))) :
    Mirrors change g (p.bind u) (q.bind v) := by
  induction h with
  | done result => exact later result
  | endless => exact .endless
  | ask rest ih => exact .ask ih

/-- Two that answer in step, with changed replies, keep in step over a run. `S n` says that they are in
step for `n` more calls, and `P` which calls they are in step for. -/
theorem run {P : Call → Prop} {S : Nat → σ → τ → Prop} {respond : Responder Call Reply σ}
    {respond' : Responder Call Reply τ} (h : Mirrors change f p q) (only : p.OnlyAsks P)
    (step : ∀ {n s t} time call, P call → S (n + 1) s t →
      (respond' t time call).1 = (change call (respond s time call).1.1, (respond s time call).1.2) ∧
        S n (respond s time call).2 (respond' t time call).2)
    {n : Nat} {s : σ} {t : τ} (start : S n s t) (few : (p.run respond s).calls.length ≤ n) :
    (q.run respond' t).result = (p.run respond s).result.map f ∧
      (q.run respond' t).calls = (p.run respond s).calls ∧
      S (n - (p.run respond s).calls.length) (p.run respond s).final (q.run respond' t).final := by
  induction h generalizing n s t with
  | done result => exact ⟨rfl, rfl, start⟩
  | endless => exact ⟨rfl, rfl, start⟩
  | @ask time call next next' rest ih =>
    cases only with
    | ask allowed onlyRest =>
      rw [run_ask, Run.calls_after, List.length_cons] at few
      obtain ⟨n, rfl⟩ : ∃ m, n = m + 1 := ⟨n - 1, by omega⟩
      obtain ⟨reply, left⟩ := step time call allowed start
      obtain ⟨result, calls, final⟩ := ih (respond s time call).1.1 (respond s time call).1.2
        (onlyRest _ _) left (Nat.le_of_succ_le_succ few)
      rw [run_ask, run_ask, reply]
      refine ⟨result, congrArg ((time, call) :: ·) calls, ?_⟩
      rw [Run.calls_after, List.length_cons, Nat.add_sub_add_right]
      exact final

end Mirrors

end VirtLifecycle.Plan
