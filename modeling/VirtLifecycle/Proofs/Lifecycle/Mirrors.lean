/-
Module: VirtLifecycle.Proofs.Lifecycle.Mirrors
Purpose: Reads that lose the parts of seconds. Waits and operations that only read go on alike when the
  objects that they read have their metadata in whole seconds, since they look at nothing else than
  whether an object is there and how far it has come; what they come to has whole seconds then.
Main exports: WaitConfig.mirrors_loop, Operation.Mirrors, Lifecycle.inWholeSeconds,
  Lifecycle.mirrors_awaitCreated, Lifecycle.mirrors_awaitRunning, Lifecycle.mirrors_read
-/
import VirtLifecycle.Lifecycle
import VirtLifecycle.Proofs.Operation
import VirtLifecycle.Proofs.Plan.Mirrors
import VirtLifecycle.Proofs.Resource.Basic

namespace VirtLifecycle

variable {α β ε : Type}

/-! ### Waits -/

/-- What a look shows, with the value changed. -/
def Sighting.map (f : α → β) : Sighting α → Sighting β
  | found state value => .found state (f value)
  | missing => .missing

/-- How a wait succeeds, with the value changed. -/
def Resolution.map (f : α → β) : Resolution α → Resolution β
  | reached value => .reached (f value)
  | absent => .absent

/-- What follows from a look, with the value changed. -/
def Verdict.map (f : α → β) : Verdict ε α → Verdict ε β
  | stop result time => .stop (result.map (Resolution.map f)) time
  | goOn p => .goOn p

/-- What follows from a look does not depend on the value that it shows. -/
theorem WaitConfig.judge_map (c : WaitConfig) (p : Progress) (f : α → β)
    (shown : Except ε (Sighting α)) :
    c.judge p (shown.map (Sighting.map f)) = (c.judge p shown).map f := by
  cases shown with
  | error cause => rfl
  | ok sighting =>
    cases sighting with
    | missing =>
      simp only [Except.map, Sighting.map, judge]
      split
      · rfl
      · split <;> rfl
    | found state value =>
      simp only [Except.map, Sighting.map, judge]
      split
      · rfl
      · split <;> rfl

/-- A turn does not look into the value that it is shown, so a change to it shows in the result alone. -/
theorem WaitConfig.turn_map (c : WaitConfig) (deadline : Nat) (p : Progress) (f : α → β)
    (shown : Except ε (Sighting α)) (takes : Duration) :
    c.turn deadline p (shown.map (Sighting.map f)) takes = (c.turn deadline p shown takes).map f := by
  simp only [turn, judge_map]
  split <;> rfl

/-- Looks that show changed values, in the same states, make a wait go on alike. -/
theorem WaitConfig.mirrors_loop {Call : Type} {Reply : Call → Type}
    {change : (call : Call) → Reply call → Reply call} (c : WaitConfig) {probe : Probe Call Reply ε α}
    {f : α → α}
    (reads : ∀ reply, probe.read (change probe.call reply) = (probe.read reply).map (Sighting.map f))
    (deadline turns : Nat) (p : Progress) :
    Plan.Mirrors change (fun (result, time) => (result.map (Resolution.map f), time))
      (c.loop probe deadline turns p) (c.loop probe deadline turns p) := by
  induction turns generalizing p with
  | zero =>
    unfold loop
    split
    · exact .done _
    · exact .endless
  | succ turns ih =>
    unfold loop
    split
    · exact .done _
    · refine .ask fun reply takes => ?_
      rw [reads, turn_map]
      cases c.turn deadline p (probe.read reply) takes with
      | stop result time => exact .done _
      | goOn q => exact ih (pause deadline q)

/-! ### Operations -/

namespace Operation

variable {change : (call : Call) → call.Reply → call.Reply}

/-- Given changed replies, the second operation goes on like the first one, and its result is changed
by `f`. -/
def Mirrors (change : (call : Call) → call.Reply → call.Reply) (f : α → β) (first : Operation α)
    (second : Operation β) : Prop :=
  ∀ now, Plan.Mirrors change (fun (result, time) => (result.map f, time)) (first now) (second now)

theorem mirrors_succeed (f : α → β) (result : α) :
    Mirrors change f (succeed result) (succeed (f result)) := fun _ => .done _

theorem mirrors_fail (f : α → β) (error : LifecycleError) :
    Mirrors change f (fail error) (fail error) := fun _ => .done _

theorem Mirrors.bind {γ δ : Type} {f : α → β} {g : γ → δ} {first : Operation α} {second : Operation β}
    {next : α → Operation γ} {next' : β → Operation δ} (h : Mirrors change f first second)
    (later : ∀ a, Mirrors change g (next a) (next' (f a))) :
    Mirrors change g (first >>= next) (second >>= next') := by
  intro now
  rw [bind_apply, bind_apply]
  refine (h now).bind fun (result, time) => ?_
  cases result with
  | ok a => exact later a time
  | error e => exact .done _

theorem mirrors_call {call : Call} {f : call.Answer → call.Answer}
    (changes : ∀ reply, change call reply = reply.map f) :
    Mirrors change f (Operation.call call) (Operation.call call) := by
  refine fun now => .ask fun reply takes => ?_
  rw [changes]
  cases reply with
  | ok answer => exact .done _
  | error cause => exact .done _

/-- A wait mirrors itself if its looks do: states are the same on both sides, so all decisions are. -/
theorem mirrors_await {f : α → α} {probe : Probe Call Call.Reply ClientError α} (config : WaitConfig)
    (describe : WaitError ClientError → LifecycleError)
    (reads : ∀ reply, probe.read (change probe.call reply) = (probe.read reply).map (Sighting.map f)) :
    Mirrors change (Resolution.map f) (await config probe describe) (await config probe describe) := by
  refine fun now => (config.mirrors_loop reads _ _ _).bind fun (result, time) => ?_
  cases result with
  | ok resolution => exact .done _
  | error e => exact .done _

end Operation

/-! ### Operations that read -/

namespace Lifecycle

/-- A reply with what is read in whole seconds. -/
def inWholeSeconds : (call : Call) → call.Reply → call.Reply
  | .get _ _, reply => reply.map (Option.map Resource.wholeSeconds)
  | .create _, reply | .update _ _ _, reply | .delete _ _, reply => reply

variable (config : Config) (kind : Kind) (id : ResourceId) (timeout : Duration)

/-- A look whose state is not told by the timestamps of metadata. -/
theorem read_look {view : Resource kind → String × α} {f : α → α}
    (state : ∀ object, view object.wholeSeconds = ((view object).1, f (view object).2))
    (reply : Call.Reply (.get kind id)) :
    (look kind id view).read (inWholeSeconds (.get kind id) reply) =
      ((look kind id view).read reply).map (Sighting.map f) := by
  cases reply with
  | error cause => rfl
  | ok found =>
    cases found with
    | none => rfl
    | some object => simp [look, inWholeSeconds, Except.map, Sighting.map, state]

theorem mirrors_reachedOr (f : α → α) (error : LifecycleError) (resolution : Resolution α) :
    Operation.Mirrors inWholeSeconds f (reachedOr error resolution)
      (reachedOr error (resolution.map f)) := by
  cases resolution with
  | reached value => exact Operation.mirrors_succeed f value
  | absent => exact Operation.mirrors_fail f error

/-- To wait for a new object mirrors itself, since no creation state depends on fractions of seconds. -/
theorem mirrors_awaitCreated :
    Operation.Mirrors inWholeSeconds Resource.wholeSeconds (awaitCreated config kind id timeout)
      (awaitCreated config kind id timeout) := by
  have state : ∀ object : Resource kind,
      (object.wholeSeconds.creationState.label, object.wholeSeconds) =
        (object.creationState.label, object.wholeSeconds) := fun object => by
    rw [Resource.creationState_wholeSeconds]
  exact (Operation.mirrors_await _ _ (read_look kind id state)).bind (mirrors_reachedOr _ _)

/-- To wait for a machine to run mirrors itself, since no phase depends on fractions of seconds. -/
theorem mirrors_awaitRunning :
    Operation.Mirrors inWholeSeconds Resource.wholeSeconds (awaitRunning config id timeout)
      (awaitRunning config id timeout) :=
  (Operation.mirrors_await _ _ (read_look _ id fun _ => rfl)).bind (mirrors_reachedOr _ _)

/-- To wait for an object to be gone mirrors itself, since it does not look at the object. -/
theorem mirrors_awaitDeleted :
    Operation.Mirrors inWholeSeconds (fun gone => gone) (awaitDeleted config kind id timeout)
      (awaitDeleted config kind id timeout) :=
  (Operation.mirrors_await _ _ (read_look (f := fun gone => gone) kind id fun _ => rfl)).bind fun _ =>
    Operation.mirrors_succeed _ ()

theorem mirrors_read :
    Operation.Mirrors inWholeSeconds Resource.wholeSeconds (read kind id) (read kind id) := by
  refine (Operation.mirrors_call fun _ => rfl).bind fun found => ?_
  cases found with
  | some object => exact Operation.mirrors_succeed _ object
  | none => exact Operation.mirrors_fail _ _

theorem mirrors_existsNow :
    Operation.Mirrors inWholeSeconds (fun there => there) (existsNow kind id) (existsNow kind id) := by
  refine (Operation.mirrors_call fun _ => rfl).bind fun found => ?_
  cases found with
  | some object => exact Operation.mirrors_succeed _ true
  | none => exact Operation.mirrors_succeed _ false

end Lifecycle

end VirtLifecycle
