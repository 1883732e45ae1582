/-
Module: VirtLifecycle.Proofs.Resource.Phase
Purpose: When an object counts as created. Each kind says in its own way that it is: by two flags, by two
  counts, or by a phase as it is spelled in the report. A phase that is not documented keeps its spelling
  as its label.
Main exports: Kind.documentedPhases, Resource.rawPhase?, Resource.text_instancePhase, Resource.HasSucceeded,
  Resource.creationState_of_rawPhase?, Resource.label_eq_succeeded_iff, Resource.label_of_undocumented
-/
import VirtLifecycle.Resource.Basic

namespace VirtLifecycle

namespace Kind

/-- The spellings of the documented phases. The empty one says that no phase is set. -/
def documentedPhases : Kind → List String
  | virtualMachineInstance =>
    ["", "Pending", "Scheduling", "Scheduled", "Running", "Succeeded", "Failed", "Unknown"]
  | dataVolume =>
    ["", "Pending", "PVCBound", "ImportScheduled", "ImportInProgress", "CloneScheduled", "CloneInProgress",
      "SnapshotForSmartCloneInProgress", "UploadScheduled", "UploadReady", "WaitForFirstConsumer",
      "Succeeded", "Failed", "Unknown"]
  | virtualMachine | replicaSet => []

/-- The spellings of the phases in which an object has been created. -/
def settledPhases : Kind → List String
  | virtualMachineInstance => ["Running", "Succeeded"]
  | dataVolume => ["Succeeded"]
  | virtualMachine | replicaSet => []

/-- What the spelling of a phase means for the creation of an object. -/
def stateOfPhase (kind : Kind) (phase : String) : CreationState :=
  if phase ∉ kind.documentedPhases then .unrecognized phase
  else if phase ∈ kind.settledPhases then .succeeded
  else if phase = "Failed" then .failed
  else .creating

theorem settled_subset_documented (kind : Kind) : kind.settledPhases ⊆ kind.documentedPhases := by
  cases kind <;> decide

/-- Only the phases in which an object has been created have the label of success. -/
theorem label_stateOfPhase_eq_succeeded_iff {kind : Kind} (phased : "Succeeded" ∈ kind.documentedPhases)
    (phase : String) :
    (kind.stateOfPhase phase).label = CreationState.succeeded.label ↔ phase ∈ kind.settledPhases := by
  by_cases known : phase ∈ kind.documentedPhases
  · rw [stateOfPhase, if_neg (not_not_intro known)]
    split
    · exact iff_of_true rfl ‹_›
    · split
      · exact iff_of_false (by decide) ‹_›
      · exact iff_of_false (by decide) ‹_›
  · rw [stateOfPhase, if_pos known]
    constructor
    · rintro rfl
      exact absurd phased known
    · intro settled
      exact absurd (kind.settled_subset_documented settled) known

end Kind

/-- A text that spells no documented phase is kept as it is. -/
theorem InstancePhase.ofText_of_undocumented {s : String}
    (new : s ∉ Kind.virtualMachineInstance.documentedPhases) : ofText s = other s := by
  unfold ofText
  split
  case h_9 => rfl
  all_goals exact absurd (by decide) new

theorem DataVolumePhase.ofText_of_undocumented {s : String}
    (new : s ∉ Kind.dataVolume.documentedPhases) : ofText s = other s := by
  unfold ofText
  split
  case h_15 => rfl
  all_goals exact absurd (by decide) new

/-- A phase keeps its spelling: of the documented spellings, each is that of the phase it is read as. -/
theorem InstancePhase.text_ofText (s : String) : (ofText s).text = s := by
  by_cases known : s ∈ Kind.virtualMachineInstance.documentedPhases
  · have all : ∀ s ∈ Kind.virtualMachineInstance.documentedPhases, (ofText s).text = s := by decide
    exact all s known
  · rw [ofText_of_undocumented known]
    rfl

theorem InstancePhase.creationState_ofText (s : String) :
    (ofText s).creationState = Kind.virtualMachineInstance.stateOfPhase s := by
  by_cases known : s ∈ Kind.virtualMachineInstance.documentedPhases
  · have all : ∀ s ∈ Kind.virtualMachineInstance.documentedPhases,
        (ofText s).creationState = Kind.virtualMachineInstance.stateOfPhase s := by
      decide
    exact all s known
  · rw [ofText_of_undocumented known, Kind.stateOfPhase, if_pos known]
    rfl

theorem DataVolumePhase.creationState_ofText (s : String) :
    (ofText s).creationState = Kind.dataVolume.stateOfPhase s := by
  by_cases known : s ∈ Kind.dataVolume.documentedPhases
  · have all : ∀ s ∈ Kind.dataVolume.documentedPhases,
        (ofText s).creationState = Kind.dataVolume.stateOfPhase s := by
      decide
    exact all s known
  · rw [ofText_of_undocumented known, Kind.stateOfPhase, if_pos known]
    rfl

namespace Resource

variable {kind : Kind} {r : Resource kind} {phase : String}

/-- The phase as the object reports it. -/
def rawPhase? : {kind : Kind} → Resource kind → Option String
  | .virtualMachineInstance, r => r.status.bind InstanceStatus.phase
  | .dataVolume, r => r.status.bind DataVolumeStatus.phase
  | .virtualMachine, _ | .replicaSet, _ => none

theorem text_instancePhase (r : Resource .virtualMachineInstance) :
    r.instancePhase.text = r.rawPhase?.getD "" := by
  rw [instancePhase, rawPhase?]
  cases r.status.bind InstanceStatus.phase with
  | none => rfl
  | some phase => exact InstancePhase.text_ofText phase

/-- The object says that it has been created. -/
def HasSucceeded : {kind : Kind} → Resource kind → Prop
  | .virtualMachine, r =>
    ∃ status : MachineStatus, r.status = some status ∧ status.created = true ∧ status.ready = true
  | .virtualMachineInstance, r => r.rawPhase? = some "Running" ∨ r.rawPhase? = some "Succeeded"
  | .replicaSet, r =>
    (ReplicaSetSpec.replicas r.spec).getD 1 = (r.status.bind ReplicaSetStatus.readyReplicas).getD 0
  | .dataVolume, r => r.rawPhase? = some "Succeeded"

theorem creationState_of_instance (r : Resource .virtualMachineInstance) :
    r.creationState = Kind.virtualMachineInstance.stateOfPhase (r.rawPhase?.getD "") := by
  rw [creationState, instancePhase, rawPhase?]
  cases r.status.bind InstanceStatus.phase with
  | none => rfl
  | some phase => exact InstancePhase.creationState_ofText phase

theorem creationState_of_dataVolume (r : Resource .dataVolume) :
    r.creationState = Kind.dataVolume.stateOfPhase (r.rawPhase?.getD "") := by
  rw [creationState, dataVolumePhase, rawPhase?]
  cases r.status.bind DataVolumeStatus.phase with
  | none => rfl
  | some phase => exact DataVolumePhase.creationState_ofText phase

/-- The creation state of an object that reports a phase depends on nothing else. -/
theorem creationState_of_rawPhase? (raw : r.rawPhase? = some phase) :
    r.creationState = kind.stateOfPhase phase := by
  cases kind with
  | virtualMachine => cases raw
  | replicaSet => cases raw
  | virtualMachineInstance => rw [creationState_of_instance, raw, Option.getD_some]
  | dataVolume => rw [creationState_of_dataVolume, raw, Option.getD_some]

/-- An object has the label of success exactly if it says that it has been created. -/
theorem label_eq_succeeded_iff (r : Resource kind) :
    r.creationState.label = CreationState.succeeded.label ↔ r.HasSucceeded := by
  cases kind with
  | virtualMachine =>
    rw [creationState, readiness, HasSucceeded]
    cases r.status with
    | none => exact iff_of_false (by decide) (by rintro ⟨_, ⟨⟩, _⟩)
    | some status =>
      by_cases both : MachineStatus.created status = true ∧ MachineStatus.ready status = true
      · exact iff_of_true (congrArg CreationState.label (if_pos both)) ⟨status, rfl, both⟩
      · rw [if_neg both]
        refine iff_of_false (by decide) ?_
        rintro ⟨_, ⟨⟩, both'⟩
        exact both both'
  | virtualMachineInstance =>
    rw [creationState_of_instance, Kind.label_stateOfPhase_eq_succeeded_iff (by decide), HasSucceeded]
    cases r.rawPhase? with
    | none => decide
    | some phase => simp [Kind.settledPhases]
  | replicaSet =>
    rw [creationState, replicaCounts, HasSucceeded]
    split
    · exact iff_of_true rfl ‹_›
    · exact iff_of_false (by decide) ‹_›
  | dataVolume =>
    rw [creationState_of_dataVolume, Kind.label_stateOfPhase_eq_succeeded_iff (by decide), HasSucceeded]
    cases r.rawPhase? with
    | none => decide
    | some phase => simp [Kind.settledPhases]

/-- An undocumented phase is its own label, and so is that of a failure. -/
theorem label_of_undocumented (raw : r.rawPhase? = some phase)
    (undocumented : phase ∉ kind.documentedPhases ∨ phase = "Failed") :
    r.creationState.label = phase := by
  rw [creationState_of_rawPhase? raw, Kind.stateOfPhase]
  split
  · rfl
  · rename_i known
    obtain rfl := undocumented.resolve_left known
    have notSettled : "Failed" ∉ kind.settledPhases := by cases kind <;> decide
    rw [if_neg notSettled, if_pos rfl]
    rfl

/-- An unset phase is documented, and so is success. -/
theorem ne_of_undocumented (raw : r.rawPhase? = some phase)
    (undocumented : phase ∉ kind.documentedPhases ∨ phase = "Failed") :
    phase ≠ "" ∧ phase ≠ "Succeeded" := by
  have documented : "" ∈ kind.documentedPhases ∧ "Succeeded" ∈ kind.documentedPhases := by
    cases kind with
    | virtualMachine => cases raw
    | replicaSet => cases raw
    | virtualMachineInstance => decide
    | dataVolume => decide
  rcases undocumented with unknown | rfl
  · constructor
    · rintro rfl
      exact unknown documented.1
    · rintro rfl
      exact unknown documented.2
  · decide

end Resource

end VirtLifecycle
