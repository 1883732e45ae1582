/-
Module: VirtLifecycle.Proofs.Wait.Script
Purpose: What a wait meets, told without the wait: a script says how each look turns out and how long
  it takes, for ever. From a script follow the state last seen before a look, how often the resource
  was missing in a row, how many pauses are over since the state last changed, and when each look
  would begin and end. All of it is said of scripts alone, by recursion on the number of the look.
Main exports: Look, Script, Script.lastState, Script.missingBefore, Script.pausesBefore,
  Script.lastState_eq_some_iff, WaitConfig.lookTime, WaitConfig.lookEnd, WaitConfig.runOn
-/
import VirtLifecycle.Proofs.Wait.Pauses
import VirtLifecycle.Wait.Loop

namespace VirtLifecycle

variable {ε α : Type}

/-- How a look turns out, and how long it takes. -/
structure Look (ε α : Type) where
  outcome : Except ε (Sighting α)
  takes : Duration

namespace Look

/-- The state that a look shows. -/
def state? (look : Look ε α) : Option String :=
  match look.outcome with
  | .ok (.found state _) => some state
  | .ok .missing | .error _ => none

/-- The look shows that the resource is missing. -/
def IsMissing (look : Look ε α) : Prop :=
  match look.outcome with
  | .ok .missing => True
  | .ok (.found _ _) | .error _ => False

instance (look : Look ε α) : Decidable look.IsMissing := by
  unfold IsMissing
  split <;> infer_instance

/-- When a look that begins at the given time is over, if it is left alone. -/
def overAt (look : Look ε α) (begun : Nat) : Nat :=
  Clock.sleepUntil begun (begun + look.takes.nanos)

theorem isMissing_iff (look : Look ε α) : look.IsMissing ↔ look.outcome = .ok .missing := by
  unfold IsMissing
  split <;> simp_all

theorem state?_of_isMissing {look : Look ε α} (missing : look.IsMissing) : look.state? = none := by
  rw [Look.state?, (Look.isMissing_iff look).mp missing]

end Look

/-- How all looks turn out, one after another. -/
abbrev Script (ε α : Type) := Nat → Look ε α

namespace Script

/-- Answers the looks of a wait in order, whenever they are made. The state is the number of looks
made so far. -/
def respond (s : Script ε α) :
    Plan.Responder Unit (fun _ => Except ε (Sighting α)) Nat :=
  fun k _ _ => (((s k).outcome, (s k).takes), k + 1)

/-- The state last seen before look `k`. -/
def lastState (s : Script ε α) : Nat → Option String
  | 0 => none
  | k + 1 => (s k).state?.or (s.lastState k)

/-- Look `k` shows a state, and not the one seen last. -/
def Changes (s : Script ε α) (k : Nat) : Prop :=
  (s k).state?.isSome ∧ (s k).state? ≠ s.lastState k

instance (s : Script ε α) (k : Nat) : Decidable (s.Changes k) :=
  inferInstanceAs (Decidable (_ ∧ _))

/-- How many looks before look `k` found the resource missing since it was last there. -/
def missingBefore (s : Script ε α) : Nat → Nat
  | 0 => 0
  | k + 1 => if (s k).IsMissing then s.missingBefore k + 1 else 0

/-- How many pauses before look `k` are over since the latest look that changed the state. -/
def pausesBefore (s : Script ε α) : Nat → Nat
  | 0 => 0
  | k + 1 => (if s.Changes k then 0 else s.pausesBefore k) + 1

/-- Of the looks before look `k` that show a state, look `m` is the latest. -/
structure ShowsLast (s : Script ε α) (k m : Nat) (state : String) : Prop where
  before : m < k
  shown : (s m).state? = some state
  quiet : ∀ i, m < i → i < k → (s i).state? = none

variable {s : Script ε α} {k m : Nat} {state : String}

theorem showsLast_succ_iff_of_silent (silent : (s k).state? = none) :
    s.ShowsLast (k + 1) m state ↔ s.ShowsLast k m state := by
  constructor
  · rintro ⟨before, shown, quiet⟩
    rcases Nat.lt_succ_iff_lt_or_eq.mp before with earlier | rfl
    · exact ⟨earlier, shown, fun i after low => quiet i after (Nat.lt_succ_of_lt low)⟩
    · cases silent.symm.trans shown
  · rintro ⟨before, shown, quiet⟩
    refine ⟨Nat.lt_succ_of_lt before, shown, fun i after low => ?_⟩
    rcases Nat.lt_succ_iff_lt_or_eq.mp low with earlier | rfl
    · exact quiet i after earlier
    · exact silent

theorem showsLast_succ_iff_of_shown {now : String} (shown : (s k).state? = some now) :
    s.ShowsLast (k + 1) m state ↔ m = k ∧ now = state := by
  constructor
  · rintro ⟨before, shownAt, quiet⟩
    rcases Nat.lt_succ_iff_lt_or_eq.mp before with earlier | rfl
    · cases shown.symm.trans (quiet k earlier (Nat.lt_succ_self k))
    · exact ⟨rfl, Option.some.inj (shown.symm.trans shownAt)⟩
  · rintro ⟨rfl, rfl⟩
    exact ⟨Nat.lt_succ_self _, shown, fun i after low =>
      absurd after (Nat.not_lt.mpr (Nat.le_of_lt_succ low))⟩

/-- The state last seen is that of the latest look that shows one. -/
theorem lastState_eq_some_iff : s.lastState k = some state ↔ ∃ m, s.ShowsLast k m state := by
  induction k with
  | zero => exact ⟨fun seen => (nomatch seen), fun ⟨m, last⟩ => absurd last.before (Nat.not_lt_zero m)⟩
  | succ k ih =>
    cases shown : (s k).state? with
    | none =>
      rw [lastState, shown, Option.none_or, ih]
      simp only [showsLast_succ_iff_of_silent shown]
    | some now =>
      rw [lastState, shown, Option.some_or]
      simp [showsLast_succ_iff_of_shown shown]

theorem missingBefore_succ_of_missing (missing : (s k).outcome = .ok .missing) :
    s.missingBefore (k + 1) = s.missingBefore k + 1 := by
  rw [missingBefore, if_pos ((Look.isMissing_iff _).mpr missing)]

theorem missingBefore_succ_of_found {value : α} (found : (s k).outcome = .ok (.found state value)) :
    s.missingBefore (k + 1) = 0 := by
  have present : ¬ (s k).IsMissing := by
    rw [Look.isMissing_iff, found]
    intro equal
    cases equal
  rw [missingBefore, if_neg present]

/-- A count above `n` after look `k` means that this look and the `n` before it all found the
resource missing. -/
theorem lt_missingBefore_iff (s : Script ε α) (k n : Nat) :
    n < s.missingBefore (k + 1) ↔ n ≤ k ∧ ∀ i ≤ n, (s (k - i)).IsMissing := by
  induction k generalizing n with
  | zero =>
    rw [missingBefore, missingBefore]
    by_cases missing : (s 0).IsMissing
    · simp [missing]
    · rw [if_neg missing]
      exact iff_of_false (Nat.not_lt_zero n) fun ⟨_, all⟩ => missing (all 0 (Nat.zero_le n))
  | succ k ih =>
    rw [missingBefore]
    by_cases missing : (s (k + 1)).IsMissing
    · rw [if_pos missing]
      cases n with
      | zero =>
        refine iff_of_true (Nat.succ_pos _) ⟨Nat.zero_le _, fun i low => ?_⟩
        rw [Nat.le_zero.mp low]
        exact missing
      | succ n =>
        rw [Nat.succ_lt_succ_iff, ih n]
        constructor
        · rintro ⟨enough, all⟩
          refine ⟨Nat.succ_le_succ enough, fun i low => ?_⟩
          cases i with
          | zero => exact missing
          | succ i =>
            rw [Nat.succ_sub_succ]
            exact all i (Nat.le_of_succ_le_succ low)
        · rintro ⟨enough, all⟩
          refine ⟨Nat.le_of_succ_le_succ enough, fun i low => ?_⟩
          have earlier := all (i + 1) (Nat.succ_le_succ low)
          rwa [Nat.succ_sub_succ] at earlier
    · rw [if_neg missing]
      exact iff_of_false (Nat.not_lt_zero n) fun ⟨_, all⟩ => missing (all 0 (Nat.zero_le n))

end Script

/-- A look that asks for nothing but its outcome. -/
def Probe.plain : Probe Unit (fun _ => Except ε (Sighting α)) ε α where
  call := ()
  read := id

namespace WaitConfig

/-- The pause after look `k`. -/
def pauseAfter (c : WaitConfig) (s : Script ε α) (k : Nat) : Nat :=
  c.pacing.pauseNanos (s.pausesBefore (k + 1))

/-- When look `k` would begin, if no earlier look ended the wait. -/
def lookTime (c : WaitConfig) (s : Script ε α) (start : Nat) : Nat → Nat
  | 0 => c.firstLook start
  | k + 1 =>
    let ended := (s k).overAt (c.lookTime s start k)
    Clock.sleepUntil ended (min (ended + c.pauseAfter s k) (c.deadline start))

/-- When look `k` would be over, if it were left alone. -/
def lookEnd (c : WaitConfig) (s : Script ε α) (start k : Nat) : Nat :=
  (s k).overAt (c.lookTime s start k)

/-- When a look that is still running is cut off: the timer of the deadline fires. -/
def cutOff (c : WaitConfig) (start : Nat) : Nat :=
  Clock.ceilMilli (c.deadline start)

theorem lookTime_succ (c : WaitConfig) (s : Script ε α) (start k : Nat) :
    c.lookTime s start (k + 1) =
      Clock.sleepUntil (c.lookEnd s start k)
        (min (c.lookEnd s start k + c.pauseAfter s k) (c.deadline start)) := rfl

/-- A wait by a script. Its final state is the number of looks. -/
def runOn (c : WaitConfig) (s : Script ε α) (start : Nat) :
    Plan.Run Unit Nat (Except (WaitError ε) (Resolution α) × Nat) :=
  (c.wait Probe.plain start).run s.respond 0

/-- What a wait by a script comes to within so many looks. -/
def runWithin (c : WaitConfig) (turns : Nat) (s : Script ε α) (start : Nat) :
    Plan.Run Unit Nat (Except (WaitError ε) (Resolution α) × Nat) :=
  (c.waitWithin turns Probe.plain start).run s.respond 0

end WaitConfig

end VirtLifecycle
