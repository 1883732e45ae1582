/-
Module: VirtLifecycle.Proofs.Wait.Decision
Purpose: What one look of a wait decides, and what a wait remembers of its looks. `Decides` says of
  one look of a script what it would decide. The invariant is `AtLook`: what the wait remembers when
  a look is due is what the looks before it say. One turn keeps it, or ends the wait as decided.
Main exports: WaitConfig.Decides, WaitConfig.FirstDecision, WaitConfig.AtLook, WaitConfig.AtLook.turn
-/
import VirtLifecycle.Proofs.Wait.Loop

namespace VirtLifecycle

namespace WaitConfig

variable {ε α : Type} {c : WaitConfig} {s : Script ε α} {start k : Nat} {p : Progress}

/-! ### Decisions -/

/-- Look `k` is made, and over in time for its outcome to count. -/
structure Counts (c : WaitConfig) (s : Script ε α) (start k : Nat) : Prop where
  begins : c.lookTime s start k < c.deadline start
  ends : c.lookEnd s start k ≤ c.cutOff start

/-- What look `k` decides, and when. -/
inductive Decides (c : WaitConfig) (s : Script ε α) (start k : Nat) :
    Except (WaitError ε) (Resolution α) → Nat → Prop where
  /-- it would begin at the deadline or later, and is not made -/
  | late (begins : c.deadline start ≤ c.lookTime s start k) :
      Decides c s start k (.error (.timeout c.timeout c.target (s.lastState k)))
        (c.lookTime s start k)
  /-- it is still running when the timer of the deadline fires, which is at the first whole millisecond
  that is not before the deadline -/
  | cutOff (begins : c.lookTime s start k < c.deadline start)
      (runs : c.cutOff start < c.lookEnd s start k) :
      Decides c s start k (.error (.timeout c.timeout c.target (s.lastState k))) (c.cutOff start)
  | failed (cause : ε) (counts : c.Counts s start k) (shown : (s k).outcome = .error cause) :
      Decides c s start k (.error (.probe cause)) (c.lookEnd s start k)
  | reached (state : String) (value : α) (counts : c.Counts s start k)
      (shown : (s k).outcome = .ok (.found state value)) (target : state ∈ c.target) :
      Decides c s start k (.ok (.reached value)) (c.lookEnd s start k)
  | unexpected (state : String) (value : α) (counts : c.Counts s start k)
      (shown : (s k).outcome = .ok (.found state value)) (target : state ∉ c.target)
      (pending : state ∉ c.pending) :
      Decides c s start k (.error (.unexpected state c.pending c.target)) (c.lookEnd s start k)
  | absent (counts : c.Counts s start k) (shown : (s k).outcome = .ok .missing)
      (target : c.target = []) :
      Decides c s start k (.ok .absent) (c.lookEnd s start k)
  /-- it is one more look in a row than may find the resource missing, and the count of them can be
  shown -/
  | missing (limit : UInt32) (counts : c.Counts s start k) (target : c.target ≠ [])
      (bounded : c.missingLimit = some limit) (counted : limit.toNat + 1 < UInt32.size)
      (enough : limit.toNat ≤ k)
      (shown : ∀ i ≤ limit.toNat, (s (k - i)).outcome = .ok .missing) :
      Decides c s start k (.error (.missing (limit + 1))) (c.lookEnd s start k)

/-- Look `k` decides nothing. -/
def Undecided (c : WaitConfig) (s : Script ε α) (start k : Nat) : Prop :=
  ∀ result time, ¬ c.Decides s start k result time

/-- Look `k` is the first that decides anything. -/
structure FirstDecision (c : WaitConfig) (s : Script ε α) (start k : Nat)
    (result : Except (WaitError ε) (Resolution α)) (time : Nat) : Prop where
  decides : c.Decides s start k result time
  first : ∀ j < k, c.Undecided s start j

theorem Undecided.begins (undecided : c.Undecided s start k) :
    c.lookTime s start k < c.deadline start := by
  apply Nat.lt_of_not_le
  intro late
  exact undecided _ _ (.late late)

theorem Undecided.ends (undecided : c.Undecided s start k) :
    c.lookEnd s start k ≤ c.cutOff start := by
  apply Nat.le_of_not_lt
  intro runs
  exact undecided _ _ (.cutOff undecided.begins runs)

/-- A pending state decides nothing. -/
theorem undecided_of_pending (counts : c.Counts s start k) {state : String} {value : α}
    (shown : (s k).outcome = .ok (.found state value)) (target : state ∉ c.target)
    (pending : state ∈ c.pending) : c.Undecided s start k := by
  intro result time decides
  cases decides with
  | late begins => exact Nat.not_le.mpr counts.begins begins
  | cutOff _ runs => exact Nat.not_lt.mpr counts.ends runs
  | failed cause _ other => cases shown.symm.trans other
  | reached other value' _ otherShown isTarget =>
    cases shown.symm.trans otherShown
    exact target isTarget
  | unexpected other value' _ otherShown _ notPending =>
    cases shown.symm.trans otherShown
    exact notPending pending
  | absent _ other => cases shown.symm.trans other
  | missing limit _ _ _ _ _ all => cases shown.symm.trans (all 0 (Nat.zero_le _))

/-- A tolerated absence decides nothing. -/
theorem undecided_of_tolerated (counts : c.Counts s start k)
    (shown : (s k).outcome = .ok .missing) (target : c.target ≠ [])
    (tolerated : ∀ limit, c.missingLimit = some limit → limit.toNat + 1 < UInt32.size →
      s.missingBefore (k + 1) ≤ limit.toNat) :
    c.Undecided s start k := by
  intro result time decides
  cases decides with
  | late begins => exact Nat.not_le.mpr counts.begins begins
  | cutOff _ runs => exact Nat.not_lt.mpr counts.ends runs
  | failed cause _ other => cases shown.symm.trans other
  | reached state value _ other => cases shown.symm.trans other
  | unexpected state value _ other => cases shown.symm.trans other
  | absent _ _ empty => exact target empty
  | missing limit _ _ bounded counted enough all =>
    have inARow : limit.toNat < s.missingBefore (k + 1) :=
      (s.lt_missingBefore_iff k _).mpr
        ⟨enough, fun i low => (Look.isMissing_iff _).mpr (all i low)⟩
    exact Nat.not_lt.mpr (tolerated limit bounded counted) inARow

/-- A look decides one thing. -/
theorem Decides.unique {result result' : Except (WaitError ε) (Resolution α)} {time time' : Nat}
    (one : c.Decides s start k result time) (other : c.Decides s start k result' time') :
    result = result' ∧ time = time' := by
  cases one with
  | missing limit _ _ _ _ _ all =>
    have shown := all 0 (Nat.zero_le _)
    cases other <;> grind [Counts]
  | _ =>
    cases other with
    | missing limit _ _ _ _ _ all =>
      have shown := all 0 (Nat.zero_le _)
      grind [Counts]
    | _ => grind [Counts]

/-- There is one first look that decides anything. -/
theorem FirstDecision.unique {k' : Nat} {result result' : Except (WaitError ε) (Resolution α)}
    {time time' : Nat} (one : c.FirstDecision s start k result time)
    (other : c.FirstDecision s start k' result' time') :
    k = k' ∧ result = result' ∧ time = time' := by
  rcases Nat.lt_trichotomy k k' with before | rfl | after
  · exact absurd one.decides (other.first k before _ _)
  · exact ⟨rfl, one.decides.unique other.decides⟩
  · exact absurd other.decides (one.first k' after _ _)

/-! ### What a wait remembers -/

/-- What a wait knows when look `k` is due is what the looks before it say. -/
structure AtLook (c : WaitConfig) (s : Script ε α) (start k : Nat) (p : Progress) : Prop where
  now : p.now = c.lookTime s start k
  schedule : p.schedule = Schedule.afterPauses c.pacing (s.pausesBefore k)
  lastState : p.lastState = s.lastState k
  missing : p.missing.toNat = s.missingBefore k % UInt32.size
  tolerated : ∀ limit, c.missingLimit = some limit → limit.toNat + 1 < UInt32.size →
    s.missingBefore k ≤ limit.toNat

/-- The same when look `k` is over and has decided nothing, before the pause. -/
structure AfterLook (c : WaitConfig) (s : Script ε α) (start k : Nat) (p : Progress) : Prop where
  now : p.now = c.lookEnd s start k
  schedule : p.schedule =
    Schedule.afterPauses c.pacing (if s.Changes k then 0 else s.pausesBefore k)
  lastState : p.lastState = s.lastState (k + 1)
  missing : p.missing.toNat = s.missingBefore (k + 1) % UInt32.size
  tolerated : ∀ limit, c.missingLimit = some limit → limit.toNat + 1 < UInt32.size →
    s.missingBefore (k + 1) ≤ limit.toNat

theorem atLook_opening (c : WaitConfig) (s : Script ε α) (start : Nat) :
    c.AtLook s start 0 (c.opening start) where
  now := rfl
  schedule := rfl
  lastState := rfl
  missing := rfl
  tolerated := fun limit _ _ => Nat.zero_le limit.toNat

theorem AfterLook.pause (h : c.AfterLook s start k p) :
    c.AtLook s start (k + 1) (pause (c.deadline start) p) where
  now := by
    have length : p.schedule.next.1.nanos = c.pauseAfter s k := by
      rw [h.schedule, Schedule.nanos_next_afterPauses]
      rfl
    rw [WaitConfig.pause, length, h.now, lookTime_succ]
  schedule := by
    rw [WaitConfig.pause, h.schedule]
    rfl
  lastState := h.lastState
  missing := h.missing
  tolerated := h.tolerated

/-- A pending state. Growing pauses begin again exactly if it is not the state seen last. -/
theorem AtLook.found (h : c.AtLook s start k p) {state : String} {value : α}
    (shown : (s k).outcome = .ok (.found state value)) :
    c.AfterLook s start k
      { p with
        now := c.lookEnd s start k
        missing := 0
        schedule := if p.lastState = some state then p.schedule else p.schedule.restart
        lastState := some state } where
  now := rfl
  schedule := by
    have changes : s.Changes k ↔ p.lastState ≠ some state := by
      rw [Script.Changes, Look.state?, shown, h.lastState]
      exact ⟨fun change same => change.2 same.symm, fun other => ⟨rfl, fun same => other same.symm⟩⟩
    by_cases same : p.lastState = some state
    · have unchanged : ¬ s.Changes k := fun change => changes.mp change same
      rw [if_pos same, if_neg unchanged, h.schedule]
    · rw [if_neg same, if_pos (changes.mpr same), h.schedule, Schedule.restart_afterPauses]
  lastState := by
    rw [Script.lastState, Look.state?, shown]
    rfl
  missing := by
    rw [Script.missingBefore_succ_of_found shown]
    rfl
  tolerated := fun limit _ _ => by
    rw [Script.missingBefore_succ_of_found shown]
    exact Nat.zero_le _

/-- The count of one look more, whether or not it begins again. -/
theorem AtLook.toNat_missing_add_one (h : c.AtLook s start k p) :
    (p.missing + 1).toNat = (s.missingBefore k + 1) % UInt32.size := by
  rw [UInt32.toNat_add, h.missing, Nat.mod_add_mod]
  rfl

/-- As long as the bound can be exceeded, the count has not begun again: the wait would have ended. -/
theorem AtLook.toNat_missing_of_limit (h : c.AtLook s start k p) {limit : UInt32}
    (bounded : c.missingLimit = some limit) (counted : limit.toNat + 1 < UInt32.size) :
    (p.missing + 1).toNat = s.missingBefore k + 1 := by
  have before : s.missingBefore k + 1 < UInt32.size :=
    Nat.lt_of_le_of_lt (Nat.succ_le_succ (h.tolerated limit bounded counted)) counted
  rw [h.toNat_missing_add_one, Nat.mod_eq_of_lt before]

/-- A tolerated absence counts, and changes nothing else. -/
theorem AtLook.missed (h : c.AtLook s start k p) (shown : (s k).outcome = .ok .missing)
    (tolerated : ∀ limit, c.missingLimit = some limit → limit.toNat + 1 < UInt32.size →
      s.missingBefore (k + 1) ≤ limit.toNat) :
    c.AfterLook s start k { p with now := c.lookEnd s start k, missing := p.missing + 1 } where
  now := rfl
  schedule := by
    have unchanged : ¬ s.Changes k := by
      rw [Script.Changes, Look.state?, shown]
      exact fun change => Bool.noConfusion change.1
    rw [if_neg unchanged, h.schedule]
  lastState := by
    rw [Script.lastState, Look.state?, shown, h.lastState]
    rfl
  missing := by
    rw [h.toNat_missing_add_one, Script.missingBefore_succ_of_missing shown]
  tolerated := tolerated

/-- A verdict tells what look `k` decides, or else what the wait remembers of it. -/
def Tells (c : WaitConfig) (s : Script ε α) (start k : Nat) : Verdict ε α → Prop
  | .stop result time => c.Decides s start k result time
  | .goOn q => c.Undecided s start k ∧ c.AfterLook s start k q

theorem AtLook.judge_found (h : c.AtLook s start k p) (counts : c.Counts s start k)
    {state : String} {value : α} (shown : (s k).outcome = .ok (.found state value)) :
    c.Tells s start k
      (c.judge { p with now := c.lookEnd s start k } (.ok (.found state value) : Except ε _)) := by
  rw [WaitConfig.judge]
  by_cases target : state ∈ c.target
  · rw [if_pos target]
    exact .reached state value counts shown target
  · by_cases pending : state ∈ c.pending
    · rw [if_neg target, if_neg (not_not_intro pending)]
      exact ⟨undecided_of_pending counts shown target pending, h.found shown⟩
    · rw [if_neg target, if_pos pending]
      exact .unexpected state value counts shown target pending

theorem AtLook.judge_missing (h : c.AtLook s start k p) (counts : c.Counts s start k)
    (shown : (s k).outcome = .ok .missing) :
    c.Tells s start k
      (c.judge { p with now := c.lookEnd s start k } (.ok .missing : Except ε (Sighting α))) := by
  rw [WaitConfig.judge]
  by_cases target : c.target = []
  · rw [if_pos (List.isEmpty_iff.mpr target)]
    exact .absent counts shown target
  · rw [if_neg (fun empty => target (List.isEmpty_iff.mp empty))]
    have inARow := Script.missingBefore_succ_of_missing shown
    by_cases exceeded : c.missingLimit.any (· < p.missing + 1)
    · rw [if_pos exceeded]
      obtain ⟨limit, bounded, above⟩ := (Option.any_eq_true _ _).mp exceeded
      have above : limit.toNat < (p.missing + 1).toNat := UInt32.lt_iff_toNat_lt.mp (of_decide_eq_true above)
      have counted : limit.toNat + 1 < UInt32.size :=
        Nat.lt_of_le_of_lt above (UInt32.toNat_lt_size (p.missing + 1))
      -- the looks before were tolerated, so the count exceeds the bound by one
      have before := h.tolerated limit bounded counted
      have count := h.toNat_missing_of_limit bounded counted
      have inFull : p.missing + 1 = limit + 1 := by
        apply UInt32.toNat_inj.mp
        rw [count, UInt32.toNat_add, UInt32.toNat_one, Nat.mod_eq_of_lt counted]
        omega
      obtain ⟨enough, all⟩ := (s.lt_missingBefore_iff k limit.toNat).mp (by omega)
      rw [inFull]
      exact .missing limit counts target bounded counted enough
        fun i low => (Look.isMissing_iff _).mp (all i low)
    · rw [if_neg exceeded]
      have tolerated : ∀ limit, c.missingLimit = some limit → limit.toNat + 1 < UInt32.size →
          s.missingBefore (k + 1) ≤ limit.toNat := by
        intro limit bounded counted
        rw [inARow, ← h.toNat_missing_of_limit bounded counted]
        apply Nat.le_of_not_lt
        intro above
        exact exceeded ((Option.any_eq_true _ _).mpr
          ⟨limit, bounded, decide_eq_true (UInt32.lt_iff_toNat_lt.mpr above)⟩)
      exact ⟨undecided_of_tolerated counts shown target tolerated, h.missed shown tolerated⟩

/-- The verdict on a look that is due in time. -/
theorem AtLook.turn (h : c.AtLook s start k p) (due : c.lookTime s start k < c.deadline start) :
    c.Tells s start k (c.turn (c.deadline start) p (s k).outcome (s k).takes) := by
  have ended : Clock.sleepUntil p.now (p.now + (s k).takes.nanos) = c.lookEnd s start k := by
    rw [h.now]
    rfl
  rw [WaitConfig.turn, ended, ← cutOff]
  by_cases runs : c.cutOff start < c.lookEnd s start k
  · rw [if_pos runs, timedOut, h.lastState]
    exact .cutOff due runs
  · rw [if_neg runs]
    have counts : c.Counts s start k := ⟨due, Nat.le_of_not_lt runs⟩
    cases shown : (s k).outcome with
    | error cause => exact .failed cause counts shown
    | ok sighting =>
      cases sighting with
      | found state value => exact h.judge_found counts shown
      | missing => exact h.judge_missing counts shown

end WaitConfig

end VirtLifecycle
