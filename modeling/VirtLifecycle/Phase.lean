/-
Module: VirtLifecycle.Phase
Purpose: The phases that running machines and disks report. Each documented phase has one spelling,
  the empty text means that no phase is set, and every other text is kept as it is.
Specification: [SPEC 3 Data model], observed status: `VirtualMachineInstancePhase` and
  `DataVolumePhase`, with `parse`, `as_str` and `creation_state`.
Main exports: InstancePhase, DataVolumePhase, their `ofText`, `text` and `creationState`
-/
import VirtLifecycle.CreationState

namespace VirtLifecycle

/-- The phase of a running machine (`VirtualMachineInstancePhase`). -/
inductive InstancePhase where
  | unset
  | pending
  | scheduling
  | scheduled
  | running
  | succeeded
  | failed
  | unknown
  | other (phase : String)
deriving DecidableEq, Repr, Inhabited

namespace InstancePhase

/-- The documented phases. -/
def documented : List InstancePhase :=
  [unset, pending, scheduling, scheduled, running, succeeded, failed, unknown]

/-- The spelling of a phase (`as_str`). -/
def text : InstancePhase → String
  | unset => ""
  | pending => "Pending"
  | scheduling => "Scheduling"
  | scheduled => "Scheduled"
  | running => "Running"
  | succeeded => "Succeeded"
  | failed => "Failed"
  | unknown => "Unknown"
  | other phase => phase

/-- The phase with a given spelling (`parse`). -/
def ofText : String → InstancePhase
  | "" => unset
  | "Pending" => pending
  | "Scheduling" => scheduling
  | "Scheduled" => scheduled
  | "Running" => running
  | "Succeeded" => succeeded
  | "Failed" => failed
  | "Unknown" => unknown
  | phase => other phase

/-- What the phase means for the creation of the machine. -/
def creationState : InstancePhase → CreationState
  | running | succeeded => .succeeded
  | failed => .failed
  | other phase => .unrecognized phase
  | unset | pending | scheduling | scheduled | unknown => .creating

end InstancePhase

/-- The phase of a disk that is filled from a source (`DataVolumePhase`). -/
inductive DataVolumePhase where
  | unset
  | pending
  /-- `PVCBound` -/
  | claimBound
  | importScheduled
  | importInProgress
  | cloneScheduled
  | cloneInProgress
  | snapshotForSmartCloneInProgress
  | uploadScheduled
  | uploadReady
  | waitForFirstConsumer
  | succeeded
  | failed
  | unknown
  | other (phase : String)
deriving DecidableEq, Repr, Inhabited

namespace DataVolumePhase

/-- The documented phases. -/
def documented : List DataVolumePhase :=
  [unset, pending, claimBound, importScheduled, importInProgress, cloneScheduled, cloneInProgress,
    snapshotForSmartCloneInProgress, uploadScheduled, uploadReady, waitForFirstConsumer, succeeded,
    failed, unknown]

/-- The spelling of a phase (`as_str`). -/
def text : DataVolumePhase → String
  | unset => ""
  | pending => "Pending"
  | claimBound => "PVCBound"
  | importScheduled => "ImportScheduled"
  | importInProgress => "ImportInProgress"
  | cloneScheduled => "CloneScheduled"
  | cloneInProgress => "CloneInProgress"
  | snapshotForSmartCloneInProgress => "SnapshotForSmartCloneInProgress"
  | uploadScheduled => "UploadScheduled"
  | uploadReady => "UploadReady"
  | waitForFirstConsumer => "WaitForFirstConsumer"
  | succeeded => "Succeeded"
  | failed => "Failed"
  | unknown => "Unknown"
  | other phase => phase

/-- The phase with a given spelling (`parse`). -/
def ofText : String → DataVolumePhase
  | "" => unset
  | "Pending" => pending
  | "PVCBound" => claimBound
  | "ImportScheduled" => importScheduled
  | "ImportInProgress" => importInProgress
  | "CloneScheduled" => cloneScheduled
  | "CloneInProgress" => cloneInProgress
  | "SnapshotForSmartCloneInProgress" => snapshotForSmartCloneInProgress
  | "UploadScheduled" => uploadScheduled
  | "UploadReady" => uploadReady
  | "WaitForFirstConsumer" => waitForFirstConsumer
  | "Succeeded" => succeeded
  | "Failed" => failed
  | "Unknown" => unknown
  | phase => other phase

/-- What the phase means for the creation of the disk. -/
def creationState : DataVolumePhase → CreationState
  | succeeded => .succeeded
  | failed => .failed
  | other phase => .unrecognized phase
  | _ => .creating

end DataVolumePhase

end VirtLifecycle
