/-
Module: VirtLifecycle.Proofs.Plan.Run
Purpose: Runs of composed plans. A run of one plan after another is the run of the first, and, if that
  comes to a result, the run of the second from where the first one left whoever answers.
Main exports: Plan.Run.after, Plan.Run.andThen, Plan.Run.EndsWithin, Plan.run_ask, Plan.run_bind,
  Plan.run_map
-/
import VirtLifecycle.Plan

namespace VirtLifecycle.Plan

variable {Call : Type} {Reply : Call → Type} {α β σ : Type}

namespace Run

/-- The run with one more call made before it. -/
def after (call : Nat × Call) (run : Run Call σ α) : Run Call σ α :=
  { run with calls := call :: run.calls }

@[simp] theorem result_after (call : Nat × Call) (run : Run Call σ α) :
    (run.after call).result = run.result := rfl

@[simp] theorem calls_after (call : Nat × Call) (run : Run Call σ α) :
    (run.after call).calls = call :: run.calls := rfl

@[simp] theorem final_after (call : Nat × Call) (run : Run Call σ α) :
    (run.after call).final = run.final := rfl

/-- A run that goes on after a first one, if that has a result. -/
def andThen (first : Run Call σ α) (next : α → σ → Run Call σ β) : Run Call σ β :=
  match first.result with
  | none => ⟨none, first.calls, first.final⟩
  | some a => { next a first.final with calls := first.calls ++ (next a first.final).calls }

theorem andThen_of_none {first : Run Call σ α} (h : first.result = none)
    (next : α → σ → Run Call σ β) :
    first.andThen next = ⟨none, first.calls, first.final⟩ := by
  rw [andThen, h]

/-- After a run with a result the next one follows, and its calls come after those of the first. -/
theorem andThen_of_some {first : Run Call σ α} {a : α} (h : first.result = some a)
    (next : α → σ → Run Call σ β) :
    first.andThen next =
      ⟨(next a first.final).result, first.calls ++ (next a first.final).calls,
        (next a first.final).final⟩ := by
  rw [andThen, h]

theorem andThen_after (call : Nat × Call) (first : Run Call σ α) (next : α → σ → Run Call σ β) :
    (first.after call).andThen next = (first.andThen next).after call := by
  unfold andThen
  rw [result_after]
  cases first.result with
  | none => rfl
  | some a => rfl

/-- The run comes to a result, with at most so many calls. -/
structure EndsWithin (run : Run Call σ α) (most : Nat) : Prop where
  ends : run.result.isSome
  calls : run.calls.length ≤ most

/-- Going on without calls keeps to the same number of them. -/
theorem EndsWithin.andThen {first : Run Call σ α} {most : Nat} (h : first.EndsWithin most)
    {next : α → σ → Run Call σ β} (quiet : ∀ a state, (next a state).EndsWithin 0) :
    (first.andThen next).EndsWithin most := by
  obtain ⟨a, result⟩ := Option.isSome_iff_exists.mp h.ends
  obtain ⟨ends, calls⟩ := quiet a first.final
  rw [andThen_of_some result]
  refine ⟨ends, ?_⟩
  rw [List.length_append]
  exact Nat.add_le_add h.calls calls

end Run

/-- To carry out a plan that asks is to put its call in front of what follows from the reply. -/
theorem run_ask (respond : Responder Call Reply σ) (state : σ) (time : Nat) (call : Call)
    (next : Reply call → Duration → Plan Call Reply α) :
    run respond state (ask time call next) =
      (run respond (respond state time call).2
        (next (respond state time call).1.1 (respond state time call).1.2)).after (time, call) := rfl

/-- The run of one plan after another. -/
theorem run_bind (respond : Responder Call Reply σ) (state : σ) (plan : Plan Call Reply α)
    (f : α → Plan Call Reply β) :
    run respond state (plan.bind f) =
      (run respond state plan).andThen fun a state => run respond state (f a) := by
  induction plan generalizing state with
  | done result => rfl
  | endless => rfl
  | ask time call next ih =>
    rw [bind_ask, run_ask, run_ask, Run.andThen_after]
    exact congrArg (Run.after (time, call)) (ih _ _ _)

/-- The run of a plan whose result is changed. -/
theorem run_map (respond : Responder Call Reply σ) (state : σ) (plan : Plan Call Reply α)
    (f : α → β) :
    run respond state (plan.map f) =
      ⟨(run respond state plan).result.map f, (run respond state plan).calls,
        (run respond state plan).final⟩ := by
  rw [map, run_bind]
  cases result : (run respond state plan).result with
  | none => rw [Run.andThen_of_none result, Option.map_none]
  | some a => rw [Run.andThen_of_some result, run, List.append_nil, Option.map_some]

end VirtLifecycle.Plan
