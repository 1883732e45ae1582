/-
Module: VirtLifecycle.Resource.Basic
Purpose: Objects of the four kinds. An object has metadata, a description of what it should be and
  perhaps a report on what it is. The report is reduced to one creation state, which is all that
  waiting for a new object looks at.
Specification: [SPEC 3 Data model], observed status (`kubevirt-crds`): `VirtualMachine`,
  `VirtualMachineInstance`, `VirtualMachineInstanceReplicaSet` and `DataVolume`, with `readiness`,
  `phase`, `replica_counts`, `progress` and `creation_state`.
Main exports: Resource, Kind.Spec, Kind.Status, Resource.codec, Resource.decode?, Resource.encode,
  Resource.creationState, Readiness, ReplicaCounts
-/
import VirtLifecycle.Kind
import VirtLifecycle.Phase
import VirtLifecycle.Resource.Kinds
import VirtLifecycle.Resource.Metadata
import VirtLifecycle.ResourceId

namespace VirtLifecycle

namespace Kind

/-- What an object of the kind should be. -/
abbrev Spec : Kind → Type
  | virtualMachine => MachineSpec
  | virtualMachineInstance => InstanceSpec
  | replicaSet => ReplicaSetSpec
  | dataVolume => DataVolumeSpec

/-- What an object of the kind reports. -/
abbrev Status : Kind → Type
  | virtualMachine => MachineStatus
  | virtualMachineInstance => InstanceStatus
  | replicaSet => ReplicaSetStatus
  | dataVolume => DataVolumeStatus

def specCodec : (k : Kind) → Codec k.Spec
  | virtualMachine => MachineSpec.codec
  | virtualMachineInstance => InstanceSpec.codec
  | replicaSet => ReplicaSetSpec.codec
  | dataVolume => DataVolumeSpec.codec

def statusCodec : (k : Kind) → Codec k.Status
  | virtualMachine => MachineStatus.codec
  | virtualMachineInstance => InstanceStatus.codec
  | replicaSet => ReplicaSetStatus.codec
  | dataVolume => DataVolumeStatus.codec

/-- An empty description. -/
def emptySpec : (k : Kind) → k.Spec
  | virtualMachine => {}
  | virtualMachineInstance => {}
  | replicaSet => {}
  | dataVolume => {}

end Kind

/-- An object of a kind. -/
structure Resource (k : Kind) where
  metadata : Metadata
  spec : k.Spec
  status : Option k.Status

instance (k : Kind) : Inhabited (Resource k) := ⟨⟨{}, k.emptySpec, none⟩⟩

/-- Whether a machine has its running counterpart, and whether that is ready (`VirtualMachineReadiness`). -/
structure Readiness where
  created : Bool
  ready : Bool
deriving DecidableEq, Repr, Inhabited

/-- How many machines of a set should run, and how many are ready (`replica_counts`). -/
structure ReplicaCounts where
  desired : Int32
  ready : Int32
deriving DecidableEq, Repr, Inhabited

namespace Resource

/-- An object is written with its version and kind, which are not read. As a list it has its three parts,
the last of which may be null. -/
def codec (k : Kind) : Codec (Resource k) :=
  .record .complete
    (.cons "apiVersion" (.constant k.apiVersion) <|
      .cons "kind" (.constant k.name) <|
      .cons "metadata" (.required Metadata.codec) <|
      .cons "spec" (.required k.specCodec) <|
      .cons "status" (.optional k.statusCodec) .nil)
    { take := fun r => ((), (), r.metadata, r.spec, r.status, ())
      make := fun ((), (), metadata, spec, status, ()) => ⟨metadata, spec, status⟩
      make_take := fun _ => rfl
      take_make := fun _ => rfl }

/-- Reads an object. -/
def decode? {α : Type} [Document α] (k : Kind) (value : α) : Option (Resource k) :=
  (codec k).read value

/-- The object as a document. -/
def encode {k : Kind} (r : Resource k) : Json :=
  (codec k).write r

/-- The two flags of a machine; both down while nothing is reported. -/
def readiness (r : Resource .virtualMachine) : Readiness :=
  match r.status with
  | some status => ⟨MachineStatus.created status, MachineStatus.ready status⟩
  | none => ⟨false, false⟩

/-- The phase of a running machine; unset while nothing is reported. -/
def instancePhase (r : Resource .virtualMachineInstance) : InstancePhase :=
  match r.status.bind InstanceStatus.phase with
  | some phase => .ofText phase
  | none => .unset

/-- The counts of a set: one machine unless it asks for another number, none ready unless it reports
some. -/
def replicaCounts (r : Resource .replicaSet) : ReplicaCounts where
  desired := (ReplicaSetSpec.replicas r.spec).getD 1
  ready := (r.status.bind ReplicaSetStatus.readyReplicas).getD 0

/-- The phase of a disk; unset while nothing is reported. -/
def dataVolumePhase (r : Resource .dataVolume) : DataVolumePhase :=
  match r.status.bind DataVolumeStatus.phase with
  | some phase => .ofText phase
  | none => .unset

/-- How far a disk reports to be filled. -/
def progress (r : Resource .dataVolume) : Option String :=
  r.status.bind DataVolumeStatus.progress

/-- How far the creation of the object has come (`creation_state`). -/
def creationState : {k : Kind} → Resource k → CreationState
  | .virtualMachine, r => if r.readiness.created ∧ r.readiness.ready then .succeeded else .creating
  | .virtualMachineInstance, r => r.instancePhase.creationState
  | .replicaSet, r =>
    if r.replicaCounts.desired = r.replicaCounts.ready then .succeeded else .creating
  | .dataVolume, r => r.dataVolumePhase.creationState

/-- The object in another namespace. -/
def inSpace {k : Kind} (r : Resource k) (space : String) : Resource k :=
  { r with metadata := { r.metadata with space := some space } }

end Resource

end VirtLifecycle
