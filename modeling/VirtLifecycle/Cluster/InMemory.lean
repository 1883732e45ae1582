/-
Module: VirtLifecycle.Cluster.InMemory
Purpose: A cluster held in memory. It stores objects of each kind by namespace and name, answers gets
  first with readings that were scripted for the object, can be armed to fail the next write, and
  counts reads and writes.
Specification: [SPEC 2 System overview] (`kubevirt-client`, feature `test-util`): `MockKubeVirtClient`
  and its `MockStore`, with `add_*`, `script_*`, `has_*`, `fail_next_write`, `read_count` and
  `write_count`.
Main exports: Cluster, Cluster.empty, Cluster.add, Cluster.script, Cluster.holds, Cluster.arm,
  Cluster.answer, Cluster.patched?
-/
import VirtLifecycle.Cluster.Call
import VirtLifecycle.Json.MergePatch
import VirtLifecycle.Plan

namespace VirtLifecycle

/-- What a get is scripted to answer (`MockRead`). -/
inductive Reading (kind : Kind) where
  | object (value : Resource kind)
  | missing
  | failure (message : String)

/-- The reply that a reading stands for. -/
def Reading.reply {kind : Kind} : Reading kind → Except ClientError (Option (Resource kind))
  | object value => .ok (some value)
  | missing => .ok none
  | failure message => .error (.rejected (.arranged message))

/-- A cluster in memory: for each kind the objects (`objects`) and the readings still to come (`scripted`) by
namespace and name, and the failure and the counters that all kinds share. -/
structure Cluster where
  stored : (kind : Kind) → ResourceId → Option (Resource kind)
  scripted : (kind : Kind) → ResourceId → List (Reading kind)
  /-- the message of the failure that the next write meets -/
  armed : Option String
  reads : Nat
  writes : Nat

namespace Cluster

/-- A function on kinds and ids with one value changed. -/
def setAt {β : Kind → Type} (f : (kind : Kind) → ResourceId → β kind) (kind : Kind)
    (id : ResourceId) (value : β kind) : (kind : Kind) → ResourceId → β kind :=
  fun k i => if h : k = kind ∧ i = id then h.1 ▸ value else f k i

/-- A cluster without objects. -/
def empty : Cluster where
  stored := fun _ _ => none
  scripted := fun _ _ => []
  armed := none
  reads := 0
  writes := 0

instance : Inhabited Cluster := ⟨empty⟩

/-- Stores an object, or takes the stored one out. -/
def store (c : Cluster) (kind : Kind) (id : ResourceId) (object : Option (Resource kind)) : Cluster :=
  { c with stored := setAt c.stored kind id object }

/-- Where an object in a namespace is stored. -/
def place {kind : Kind} (object : Resource kind) (space : String) : ResourceId :=
  ⟨space, object.metadata.anyName⟩

/-- Puts an object into the cluster, without a call (`add_*`). -/
def add {kind : Kind} (c : Cluster) (object : Resource kind) : Cluster :=
  c.store kind (place object (object.metadata.space.getD "")) (some object)

/-- Adds to the readings that gets of an object answer (`script_*`). -/
def script {kind : Kind} (c : Cluster) (id : ResourceId) (readings : List (Reading kind)) : Cluster :=
  { c with scripted := setAt c.scripted kind id (c.scripted kind id ++ readings) }

/-- Whether an object is stored (`has_*`). -/
def holds (c : Cluster) (kind : Kind) (id : ResourceId) : Bool :=
  (c.stored kind id).isSome

/-- Lets the next write fail (`fail_next_write`). -/
def arm (c : Cluster) (message : String) : Cluster :=
  { c with armed := some message }

/-- The answer to a get: the first scripted reading, which is used up, or else what is stored. -/
def get (c : Cluster) (kind : Kind) (id : ResourceId) :
    Except ClientError (Option (Resource kind)) × Cluster :=
  let c := { c with reads := c.reads + 1 }
  match c.scripted kind id with
  | reading :: rest => (reading.reply, { c with scripted := setAt c.scripted kind id rest })
  | [] => (.ok (c.stored kind id), c)

/-- A write: it is counted, and fails if the cluster is armed (`record_write`). -/
def write {α : Type} (c : Cluster) (change : Cluster → Except ClientError (α × Cluster)) :
    Except ClientError α × Cluster :=
  let counted := { c with writes := c.writes + 1, armed := none }
  match c.armed with
  | some message => (.error (.rejected (.arranged message)), counted)
  | none =>
    match change counted with
    | .ok (answer, changed) => (.ok answer, changed)
    | .error cause => (.error cause, counted)

/-- Stores a new object. It needs a namespace, even an empty one. -/
def create {kind : Kind} (c : Cluster) (object : Resource kind) :
    Except ClientError (Resource kind × Cluster) :=
  match object.metadata.space with
  | none => .error (.noNamespace object.metadata.anyName)
  | some space =>
    let id := place object space
    if c.holds kind id then .error (.rejected (.exists id))
    else .ok (object, c.store kind id (some object))

/-- The object that a patch makes (`patch`) of another one, if it is still one of its kind. -/
def patched? {kind : Kind} (object : Resource kind) (patch : Freeform) : Option (Resource kind) :=
  Resource.decode? kind (object.encode.canonical.mergePatch patch.value)

/-- Replaces a stored object by what the patch makes of it. It stays under the id it was found by. -/
def update (c : Cluster) (kind : Kind) (id : ResourceId) (patch : Freeform) :
    Except ClientError (Resource kind × Cluster) :=
  match c.stored kind id with
  | none => .error (.rejected (.absent id))
  | some object =>
    match patched? object patch with
    | none => .error .undecodablePatch
    | some object => .ok (object, c.store kind id (some object))

/-- Takes a stored object out. -/
def delete (c : Cluster) (kind : Kind) (id : ResourceId) : Except ClientError (Unit × Cluster) :=
  if c.holds kind id then .ok ((), c.store kind id none)
  else .error (.rejected (.absent id))

/-- Answers a call. -/
def answer (c : Cluster) : (call : Call) → call.Reply × Cluster
  | .create object => c.write (·.create object)
  | .get kind id => c.get kind id
  | .update kind id patch => c.write (·.update kind id patch)
  | .delete kind id => c.write (·.delete kind id)

/-- Answers calls at once. -/
def respond : Plan.Responder Call Call.Reply Cluster := fun c _ call =>
  let (reply, c) := c.answer call
  ((reply, .zero), c)

end Cluster

end VirtLifecycle
