/-
Module: VirtLifecycle.Resource.Kinds
Purpose: What the four kinds of resources describe (spec) and report (status), and how each is read
  from a document and written as an object. Descriptions of machines and disks are free-form data
  that is only passed on.
Specification: [SPEC 3 Data model] (`kubevirt-crds`): `VirtualMachineSpec`, `VirtualMachineStatus` and
  their like for the other three kinds. Here a machine is a VirtualMachine, a running machine a
  VirtualMachineInstance, a set a VirtualMachineInstanceReplicaSet and a disk a DataVolume.
Main exports: MachineSpec, MachineStatus, InstanceSpec, InstanceStatus, ReplicaSetSpec,
  ReplicaSetStatus, DataVolumeSpec, DataVolumeStatus, each with its codec
-/
import VirtLifecycle.Resource.Condition

namespace VirtLifecycle

/-- What a machine should be. -/
structure MachineSpec where
  running : Option Bool := none
  runStrategy : Option String := none
  template : Option Freeform := none
  dataVolumeTemplates : Option (List Freeform) := none
deriving BEq, Repr, Inhabited

def MachineSpec.codec : Codec MachineSpec :=
  .record .positional
    (.cons "running" (.optional .bool) <|
      .cons "runStrategy" (.optional .text) <|
      .cons "template" (.optional .freeform) <|
      .cons "dataVolumeTemplates" (.optional (.listOf .freeform)) .nil)
    { take := fun s => (s.running, s.runStrategy, s.template, s.dataVolumeTemplates, ())
      make := fun (running, runStrategy, template, dataVolumeTemplates, ()) =>
        { running, runStrategy, template, dataVolumeTemplates }
      make_take := fun _ => rfl
      take_make := fun _ => rfl }

/-- What is known about a machine. -/
structure MachineStatus where
  created : Bool := false
  ready : Bool := false
  printableStatus : Option String := none
  conditions : List Condition := []
deriving DecidableEq, Repr, Inhabited

def MachineStatus.codec : Codec MachineStatus :=
  .record .positional
    (.cons "created" .flag <|
      .cons "ready" .flag <|
      .cons "printableStatus" (.optional .text) <|
      .cons "conditions" (.listed Condition.codec) .nil)
    { take := fun s => (s.created, s.ready, s.printableStatus, s.conditions, ())
      make := fun (created, ready, printableStatus, conditions, ()) =>
        { created, ready, printableStatus, conditions }
      make_take := fun _ => rfl
      take_make := fun _ => rfl }

/-- What a running machine should be. -/
structure InstanceSpec where
  domain : Option Freeform := none
  volumes : Option (List Freeform) := none
  networks : Option (List Freeform) := none
  nodeSelector : Option TextMap := none
  terminationGracePeriodSeconds : Option Int64 := none
deriving BEq, Repr, Inhabited

def InstanceSpec.codec : Codec InstanceSpec :=
  .record .positional
    (.cons "domain" (.optional .freeform) <|
      .cons "volumes" (.optional (.listOf .freeform)) <|
      .cons "networks" (.optional (.listOf .freeform)) <|
      .cons "nodeSelector" (.optional .texts) <|
      .cons "terminationGracePeriodSeconds" (.optional .int64) .nil)
    { take := fun s =>
        (s.domain, s.volumes, s.networks, s.nodeSelector, s.terminationGracePeriodSeconds, ())
      make := fun (domain, volumes, networks, nodeSelector, terminationGracePeriodSeconds, ()) =>
        { domain, volumes, networks, nodeSelector, terminationGracePeriodSeconds }
      make_take := fun _ => rfl
      take_make := fun _ => rfl }

/-- What is known about a running machine. -/
structure InstanceStatus where
  phase : Option String := none
  nodeName : Option String := none
  reason : Option String := none
  conditions : List Condition := []
deriving DecidableEq, Repr, Inhabited

def InstanceStatus.codec : Codec InstanceStatus :=
  .record .positional
    (.cons "phase" (.optional .text) <|
      .cons "nodeName" (.optional .text) <|
      .cons "reason" (.optional .text) <|
      .cons "conditions" (.listed Condition.codec) .nil)
    { take := fun s => (s.phase, s.nodeName, s.reason, s.conditions, ())
      make := fun (phase, nodeName, reason, conditions, ()) => { phase, nodeName, reason, conditions }
      make_take := fun _ => rfl
      take_make := fun _ => rfl }

/-- How many identical machines should run, and which. -/
structure ReplicaSetSpec where
  replicas : Option Int32 := none
  selector : Option Freeform := none
  template : Option Freeform := none
  paused : Option Bool := none
deriving BEq, Repr, Inhabited

def ReplicaSetSpec.codec : Codec ReplicaSetSpec :=
  .record .positional
    (.cons "replicas" (.optional .int32) <|
      .cons "selector" (.optional .freeform) <|
      .cons "template" (.optional .freeform) <|
      .cons "paused" (.optional .bool) .nil)
    { take := fun s => (s.replicas, s.selector, s.template, s.paused, ())
      make := fun (replicas, selector, template, paused, ()) => { replicas, selector, template, paused }
      make_take := fun _ => rfl
      take_make := fun _ => rfl }

/-- How many of the machines of a set run. -/
structure ReplicaSetStatus where
  replicas : Option Int32 := none
  readyReplicas : Option Int32 := none
  labelSelector : Option String := none
  conditions : List Condition := []
deriving DecidableEq, Repr, Inhabited

def ReplicaSetStatus.codec : Codec ReplicaSetStatus :=
  .record .positional
    (.cons "replicas" (.optional .int32) <|
      .cons "readyReplicas" (.optional .int32) <|
      .cons "labelSelector" (.optional .text) <|
      .cons "conditions" (.listed Condition.codec) .nil)
    { take := fun s => (s.replicas, s.readyReplicas, s.labelSelector, s.conditions, ())
      make := fun (replicas, readyReplicas, labelSelector, conditions, ()) =>
        { replicas, readyReplicas, labelSelector, conditions }
      make_take := fun _ => rfl
      take_make := fun _ => rfl }

/-- Where the data of a disk comes from and what holds it. -/
structure DataVolumeSpec where
  source : Option Freeform := none
  pvc : Option Freeform := none
  storage : Option Freeform := none
  contentType : Option String := none
deriving BEq, Repr, Inhabited

def DataVolumeSpec.codec : Codec DataVolumeSpec :=
  .record .positional
    (.cons "source" (.optional .freeform) <|
      .cons "pvc" (.optional .freeform) <|
      .cons "storage" (.optional .freeform) <|
      .cons "contentType" (.optional .text) .nil)
    { take := fun s => (s.source, s.pvc, s.storage, s.contentType, ())
      make := fun (source, pvc, storage, contentType, ()) => { source, pvc, storage, contentType }
      make_take := fun _ => rfl
      take_make := fun _ => rfl }

/-- How far the filling of a disk has come. -/
structure DataVolumeStatus where
  phase : Option String := none
  progress : Option String := none
  restartCount : Option Int32 := none
  conditions : List Condition := []
deriving DecidableEq, Repr, Inhabited

def DataVolumeStatus.codec : Codec DataVolumeStatus :=
  .record .positional
    (.cons "phase" (.optional .text) <|
      .cons "progress" (.optional .text) <|
      .cons "restartCount" (.optional .int32) <|
      .cons "conditions" (.listed Condition.codec) .nil)
    { take := fun s => (s.phase, s.progress, s.restartCount, s.conditions, ())
      make := fun (phase, progress, restartCount, conditions, ()) =>
        { phase, progress, restartCount, conditions }
      make_take := fun _ => rfl
      take_make := fun _ => rfl }

end VirtLifecycle
