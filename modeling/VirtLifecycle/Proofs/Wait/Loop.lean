/-
Module: VirtLifecycle.Proofs.Wait.Loop
Purpose: One turn of a wait, whoever answers its looks: it is not made, cut off, ends the wait or
  leads to the next turn. Whatever the answers were, they make up a script, so that a wait by any
  answers is a wait by a script.
Main exports: Probe.look, WaitConfig.run_loop_of_late, WaitConfig.run_loop_of_stop,
  WaitConfig.run_loop_of_goOn, WaitConfig.exists_script, WaitConfig.run_wait_of_answers
-/
import VirtLifecycle.Proofs.Plan.Run
import VirtLifecycle.Proofs.Wait.Script

namespace VirtLifecycle

variable {Call : Type} {Reply : Call → Type} {ε α β σ : Type}

namespace Probe

/-- The look that an answer to a probe makes. -/
def look (probe : Probe Call Reply ε α) (answer : Reply probe.call × Duration) : Look ε α :=
  ⟨probe.read answer.1, answer.2⟩

/-- A run makes the probe's call whenever a run by a script looks, and comes to the same result. -/
structure Follows (probe : Probe Call Reply ε α) (run : Plan.Run Call σ β)
    (scripted : Plan.Run Unit Nat β) : Prop where
  result : run.result = scripted.result
  calls : run.calls = scripted.calls.map fun look => (look.1, probe.call)

end Probe

namespace Script

/-- The script with one look before it. -/
def cons (look : Look ε α) (s : Script ε α) : Script ε α
  | 0 => look
  | k + 1 => s k

/-- Answering from the second look of a script on is answering by what the script is after its first
look. -/
theorem run_respond_cons (look : Look ε α) (s : Script ε α)
    (plan : Plan Unit (fun _ => Except ε (Sighting α)) β) (k : Nat) :
    (plan.run (s.cons look).respond (k + 1)).result = (plan.run s.respond k).result ∧
      (plan.run (s.cons look).respond (k + 1)).calls = (plan.run s.respond k).calls := by
  induction plan generalizing k with
  | done result => exact ⟨rfl, rfl⟩
  | endless => exact ⟨rfl, rfl⟩
  | ask time call next ih =>
    obtain ⟨result, calls⟩ := ih (s k).outcome (s k).takes (k + 1)
    exact ⟨result, congrArg ((time, call) :: ·) calls⟩

end Script

namespace WaitConfig

variable {c : WaitConfig} {probe : Probe Call Reply ε α} {respond : Plan.Responder Call Reply σ}
  {state : σ} {deadline : Nat} {p : Progress}

/-- A look that is due at the deadline or later is not made. -/
theorem run_loop_of_late (turns : Nat) (late : deadline ≤ p.now) :
    (c.loop probe deadline turns p).run respond state =
      ⟨some (.error (c.timedOut p.lastState), p.now), [], state⟩ := by
  unfold loop
  rw [if_pos late, Plan.run]

theorem run_loop_of_noTurns (due : p.now < deadline) :
    (c.loop probe deadline 0 p).run respond state = ⟨none, [], state⟩ := by
  unfold loop
  rw [if_neg (Nat.not_le.mpr due), Plan.run]

section Turn

variable {look : Look ε α} {next : σ} (turns : Nat) (due : p.now < deadline)
  (looked : probe.look (respond state p.now probe.call).1 = look)
  (left : (respond state p.now probe.call).2 = next)

include due looked left

theorem run_loop_of_stop {result : Except (WaitError ε) (Resolution α)} {time : Nat}
    (verdict : c.turn deadline p look.outcome look.takes = .stop result time) :
    (c.loop probe deadline (turns + 1) p).run respond state =
      ⟨some (result, time), [(p.now, probe.call)], next⟩ := by
  subst looked left
  unfold loop
  rw [if_neg (Nat.not_le.mpr due), Plan.run_ask]
  simp only [Probe.look] at verdict
  rw [verdict]
  rfl

/-- A turn that does not decide is followed by its pause and the rest of the loop. -/
theorem run_loop_of_goOn {q : Progress}
    (verdict : c.turn deadline p look.outcome look.takes = .goOn q) :
    (c.loop probe deadline (turns + 1) p).run respond state =
      ((c.loop probe deadline turns (pause deadline q)).run respond next).after
        (p.now, probe.call) := by
  subst looked left
  conv_lhs => unfold loop
  rw [if_neg (Nat.not_le.mpr due), Plan.run_ask]
  simp only [Probe.look] at verdict
  rw [verdict]

end Turn

section Scripted

variable {s : Script ε α} {k : Nat} (turns : Nat) (due : p.now < deadline)

include due

theorem run_scripted_of_stop {result : Except (WaitError ε) (Resolution α)} {time : Nat}
    (verdict : c.turn deadline p (s k).outcome (s k).takes = .stop result time) :
    (c.loop Probe.plain deadline (turns + 1) p).run s.respond k =
      ⟨some (result, time), [(p.now, ())], k + 1⟩ :=
  run_loop_of_stop turns due rfl rfl verdict

theorem run_scripted_of_goOn {q : Progress}
    (verdict : c.turn deadline p (s k).outcome (s k).takes = .goOn q) :
    (c.loop Probe.plain deadline (turns + 1) p).run s.respond k =
      ((c.loop Probe.plain deadline turns (pause deadline q)).run s.respond (k + 1)).after
        (p.now, ()) :=
  run_loop_of_goOn turns due rfl rfl verdict

end Scripted

/-! ### Any answers make up a script -/

/-- Whoever answers the looks of a loop, there is a script that answers them in the same way, so what holds
for all scripts holds for all who answer. The induction is on the turns. -/
theorem exists_script_loop (respond : Plan.Responder Call Reply σ) (turns : Nat) (state : σ)
    (p : Progress) :
    ∃ s : Script ε α,
      probe.Follows ((c.loop probe deadline turns p).run respond state)
        ((c.loop Probe.plain deadline turns p).run s.respond 0) := by
  let idle : Script ε α := fun _ => ⟨.ok .missing, .zero⟩
  induction turns generalizing state p with
  | zero =>
    refine ⟨idle, ?_⟩
    by_cases due : p.now < deadline
    · rw [run_loop_of_noTurns due, run_loop_of_noTurns due]
      exact ⟨rfl, rfl⟩
    · have late := Nat.le_of_not_lt due
      rw [run_loop_of_late 0 late, run_loop_of_late 0 late]
      exact ⟨rfl, rfl⟩
  | succ turns ih =>
    by_cases due : p.now < deadline
    · let look := probe.look (respond state p.now probe.call).1
      cases verdict : c.turn deadline p look.outcome look.takes with
      | stop result time =>
        refine ⟨idle.cons look, ?_⟩
        rw [run_loop_of_stop turns due rfl rfl verdict, run_scripted_of_stop turns due verdict]
        exact ⟨rfl, rfl⟩
      | goOn q =>
        obtain ⟨s, result, calls⟩ := ih (respond state p.now probe.call).2 (pause deadline q)
        obtain ⟨shiftedResult, shiftedCalls⟩ :=
          s.run_respond_cons look (c.loop Probe.plain deadline turns (pause deadline q)) 0
        refine ⟨s.cons look, ?_⟩
        rw [run_loop_of_goOn turns due rfl rfl verdict, run_scripted_of_goOn turns due verdict]
        constructor
        · exact result.trans shiftedResult.symm
        · rw [Plan.Run.calls_after, Plan.Run.calls_after, List.map_cons, calls]
          exact congrArg _ (congrArg _ shiftedCalls.symm)
    · have late := Nat.le_of_not_lt due
      refine ⟨idle, ?_⟩
      rw [run_loop_of_late _ late, run_loop_of_late _ late]
      exact ⟨rfl, rfl⟩

/-- Whoever answers the looks of a wait, and however long that takes, the wait follows a script. -/
theorem exists_script (c : WaitConfig) (probe : Probe Call Reply ε α) (start : Nat)
    (respond : Plan.Responder Call Reply σ) (state : σ) :
    ∃ s : Script ε α, probe.Follows ((c.wait probe start).run respond state) (c.runOn s start) :=
  exists_script_loop respond (c.enoughTurns start) state (c.opening start)

/-- Who answers look `k` as a script says, and is then ready for the next one, answers a whole wait as
the script does. -/
theorem run_loop_of_answers {s : Script ε α} (after : Nat → σ)
    (answers : ∀ k time, probe.look (respond (after k) time probe.call).1 = s k ∧
      (respond (after k) time probe.call).2 = after (k + 1)) (turns k : Nat) (p : Progress) :
    probe.Follows ((c.loop probe deadline turns p).run respond (after k))
        ((c.loop Probe.plain deadline turns p).run s.respond k) ∧
      ((c.loop probe deadline turns p).run respond (after k)).final =
        after ((c.loop Probe.plain deadline turns p).run s.respond k).final := by
  induction turns generalizing k p with
  | zero =>
    by_cases due : p.now < deadline
    · rw [run_loop_of_noTurns due, run_loop_of_noTurns due]
      exact ⟨⟨rfl, rfl⟩, rfl⟩
    · have late := Nat.le_of_not_lt due
      rw [run_loop_of_late 0 late, run_loop_of_late 0 late]
      exact ⟨⟨rfl, rfl⟩, rfl⟩
  | succ turns ih =>
    by_cases due : p.now < deadline
    · obtain ⟨looked, left⟩ := answers k p.now
      cases verdict : c.turn deadline p (s k).outcome (s k).takes with
      | stop result time =>
        rw [run_loop_of_stop turns due looked left verdict, run_scripted_of_stop turns due verdict]
        exact ⟨⟨rfl, rfl⟩, rfl⟩
      | goOn q =>
        obtain ⟨⟨result, calls⟩, final⟩ := ih (k + 1) (pause deadline q)
        rw [run_loop_of_goOn turns due looked left verdict, run_scripted_of_goOn turns due verdict]
        refine ⟨⟨result, ?_⟩, final⟩
        rw [Plan.Run.calls_after, Plan.Run.calls_after, List.map_cons, calls]
    · have late := Nat.le_of_not_lt due
      rw [run_loop_of_late _ late, run_loop_of_late _ late]
      exact ⟨⟨rfl, rfl⟩, rfl⟩

/-- If the looks are answered as a script says, from states in a row, the wait runs as on the script. -/
theorem run_wait_of_answers {s : Script ε α} (c : WaitConfig) (start : Nat) (after : Nat → σ)
    (answers : ∀ k time, probe.look (respond (after k) time probe.call).1 = s k ∧
      (respond (after k) time probe.call).2 = after (k + 1)) :
    probe.Follows ((c.wait probe start).run respond (after 0)) (c.runOn s start) ∧
      ((c.wait probe start).run respond (after 0)).final = after (c.runOn s start).final :=
  run_loop_of_answers after answers (c.enoughTurns start) 0 (c.opening start)

end WaitConfig

end VirtLifecycle
