/-
Module: VirtLifecycle.Lifecycle
Purpose: The operations on resources. A write is sent once, and what is waited for afterwards is only
  read. A new object is waited for until its creation state says that it has succeeded; a deleted one
  until it is gone. If a wait fails, what was written stays as it is.
Specification: [SPEC 4.2 Resource Reconciler] (`Reconciler`): `create_*`, `read_*`, `update_*`,
  `delete_*`, `*_exists`, `await_*_created`, `await_*_deleted` and
  `await_virtual_machine_instance_running`. The operations of the four kinds are alike but for the
  deletion of a machine, so each is one definition with the kind as a parameter.
Main exports: Lifecycle.create, Lifecycle.read, Lifecycle.update, Lifecycle.delete, Lifecycle.existsNow,
  Lifecycle.awaitCreated, Lifecycle.awaitDeleted, Lifecycle.awaitRunning, Lifecycle.prepare
-/
import VirtLifecycle.Config
import VirtLifecycle.Operation

namespace VirtLifecycle

/-- The id of an object. An object without a namespace, or with an empty one, is in the given one. -/
def ResourceId.of {kind : Kind} (object : Resource kind) (space : String) :
    Except LifecycleError ResourceId :=
  match object.metadata.name.filter (! ·.isEmpty) with
  | none => .error (.invalidId .noName)
  | some name => .ok ⟨(object.metadata.space.filter (! ·.isEmpty)).getD space, name⟩

namespace Lifecycle

/-- Computes the id of an object and fills in its namespace, the first step of `create_*`. -/
def prepare {kind : Kind} (config : Config) (object : Resource kind) :
    Except LifecycleError (ResourceId × Resource kind) :=
  match ResourceId.of object config.space with
  | .ok id => .ok (id, object.inSpace id.space)
  | .error e => .error e

/-- A wait with the given budget at the configured pace. -/
def waitConfig (config : Config) (timeout : Duration) : WaitConfig :=
  { WaitConfig.ofTimeout timeout with pacing := .every config.pause }

/-- Looks at an object; `view` says what state an object is in, and what is taken from it. -/
def look {α : Type} (kind : Kind) (id : ResourceId) (view : Resource kind → String × α) :
    Probe Call Call.Reply ClientError α where
  call := .get kind id
  read reply := reply.map fun
    | some object => .found (view object).1 (view object).2
    | none => .missing

/-- A wait for a new object. An object that is missing may still come. -/
def createdConfig (config : Config) (timeout : Duration) : WaitConfig :=
  { waitConfig config timeout with
    pending := [CreationState.creating.label, ""]
    target := [CreationState.succeeded.label] }

/-- The state of an object that still exists while its deletion is waited for. -/
def deletingState : String := "Deleting"

/-- A wait for an object to be gone. -/
def deletedConfig (config : Config) (timeout : Duration) : WaitConfig :=
  { waitConfig config timeout with pending := [deletingState] }

/-- How long a machine that was just started is left alone (`START_DELAY`). -/
def startDelay : Duration := .ofSeconds 5

/-- In how many looks in a row a machine that was just started may be missing (`START_NOT_FOUND_CHECKS`). -/
def startMissingLimit : UInt32 := 3

/-- A wait for a machine that was just started to run. -/
def runningConfig (config : Config) (timeout : Duration) : WaitConfig :=
  { waitConfig config timeout with
    pending := [InstancePhase.pending, .scheduling, .scheduled, .unset].map InstancePhase.text
    target := [InstancePhase.running.text]
    delay := startDelay
    missingLimit := some startMissingLimit }

/-- Takes the value that a wait has reached. -/
def reachedOr {α : Type} (error : LifecycleError) : Resolution α → Operation α
  | .reached value => .succeed value
  | .absent => .fail error

/-- Waits until an object is there and its creation has succeeded (`await_*_created`). -/
def awaitCreated (config : Config) (kind : Kind) (id : ResourceId) (timeout : Duration) :
    Operation (Resource kind) := do
  let resolution ← Operation.await (createdConfig config timeout)
    (look kind id fun object => (object.creationState.label, object)) (.wait kind id .creation)
  reachedOr (.notFound kind id) resolution

/-- Waits until an object is gone (`await_*_deleted`). -/
def awaitDeleted (config : Config) (kind : Kind) (id : ResourceId) (timeout : Duration) :
    Operation Unit := do
  let _ ← Operation.await (deletedConfig config timeout)
    (look kind id fun _ => (deletingState, ())) (.wait kind id .deletion)

/-- Waits until a machine that was just started runs (`await_virtual_machine_instance_running`). -/
def awaitRunning (config : Config) (id : ResourceId) (timeout : Duration) :
    Operation (Resource .virtualMachineInstance) := do
  let resolution ← Operation.await (runningConfig config timeout)
    (look .virtualMachineInstance id fun object => (object.instancePhase.text, object))
    (.wait .virtualMachineInstance id .start)
  reachedOr (.notFound .virtualMachineInstance id) resolution

/-- Creates an object (`create_*`) and, if the configuration says so, waits for it. -/
def create {kind : Kind} (config : Config) (object : Resource kind) :
    Operation (ResourceId × Resource kind) := do
  let (id, object) ← Operation.ofExcept (prepare config object)
  let submitted ← Operation.call (.create object)
  if config.wait then
    let settled ← awaitCreated config kind id (config.timeouts.create kind)
    return (id, settled)
  else return (id, submitted)

/-- Reads an object, which has to exist (`read_*`). -/
def read (kind : Kind) (id : ResourceId) : Operation (Resource kind) := do
  let found ← Operation.call (.get kind id)
  match found with
  | some object => return object
  | none => Operation.fail (.notFound kind id)

/-- Merges a patch into an object and reads it back (`update_*`). Nothing is waited for. -/
def update (kind : Kind) (id : ResourceId) (patch : Freeform) : Operation (Resource kind) := do
  let _ ← Operation.call (.update kind id patch)
  read kind id

/-- Waits until a deleted object is gone. A machine is gone after its running counterpart of the same
name, and both waits share one budget. -/
def awaitGone (config : Config) (kind : Kind) (id : ResourceId) (budget : Duration) :
    Operation Unit :=
  match kind with
  | .virtualMachine => do
    let started ← Operation.now
    awaitDeleted config .virtualMachineInstance id budget
    let reached ← Operation.now
    awaitDeleted config .virtualMachine id (budget.sub (Clock.elapsed started reached))
  | kind => awaitDeleted config kind id budget

/-- Deletes an object (`delete_*`) and, if the configuration says so, waits until it is gone. -/
def delete (config : Config) (kind : Kind) (id : ResourceId) : Operation Unit := do
  let _ ← Operation.call (.delete kind id)
  if config.wait then awaitGone config kind id config.timeouts.delete
  else return ()

/-- Whether an object exists (`*_exists`). -/
def existsNow (kind : Kind) (id : ResourceId) : Operation Bool := do
  let found ← Operation.call (.get kind id)
  return found.isSome

end Lifecycle

end VirtLifecycle
