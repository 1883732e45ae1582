/-
Module: VirtLifecycle.Config
Purpose: The configuration: the namespace of objects that name none, whether operations wait, the
  pause between two looks, and the time budgets. Each value is read from a variable of its own and
  has a default; the first faulty variable, in a fixed order, is reported.
Specification: [SPEC 10 Configuration]: `ProviderConfig`, `Timeouts`, `from_lookup`, `parse_bool`,
  `parse_secs`. The default timeouts are those of [SPEC 4.2 Resource Reconciler].
Main exports: Config, Timeouts, Config.standard, Config.ofLookup, Config.Variable
-/
import VirtLifecycle.Error
import VirtLifecycle.Text.Blank

namespace VirtLifecycle

/-- How long operations may wait. -/
structure Timeouts where
  virtualMachineCreate : Duration
  instanceCreate : Duration
  replicaSetCreate : Duration
  dataVolumeCreate : Duration
  delete : Duration
deriving DecidableEq, Repr, Inhabited

namespace Timeouts

/-- Twenty minutes for a machine, forty for running machines, five for disks and deletions. -/
def standard : Timeouts where
  virtualMachineCreate := .ofSeconds (20 * 60)
  instanceCreate := .ofSeconds (40 * 60)
  replicaSetCreate := .ofSeconds (40 * 60)
  dataVolumeCreate := .ofSeconds (5 * 60)
  delete := .ofSeconds (5 * 60)

/-- The budget for the creation of an object. -/
def create (t : Timeouts) : Kind → Duration
  | .virtualMachine => t.virtualMachineCreate
  | .virtualMachineInstance => t.instanceCreate
  | .replicaSet => t.replicaSetCreate
  | .dataVolume => t.dataVolumeCreate

end Timeouts

/-- What operations go by (`ProviderConfig`). -/
structure Config where
  /-- the namespace of objects that name none -/
  space : String
  wait : Bool
  /-- the pause between two looks (`poll_interval`) -/
  pause : Duration
  timeouts : Timeouts
deriving DecidableEq, Repr, Inhabited

namespace Config

def standard : Config where
  space := "default"
  wait := true
  pause := .ofSeconds 2
  timeouts := .standard

/-- The variables that hold the configuration. -/
inductive Variable where
  | space
  | wait
  | pause
  | virtualMachineCreate
  | instanceCreate
  | replicaSetCreate
  | dataVolumeCreate
  | delete
deriving DecidableEq, Repr, Inhabited

def Variable.name : Variable → String
  | space => "KUBEVIRT_NAMESPACE"
  | wait => "KUBEVIRT_WAIT"
  | pause => "KUBEVIRT_POLL_INTERVAL_SECS"
  | virtualMachineCreate => "KUBEVIRT_VM_CREATE_TIMEOUT_SECS"
  | instanceCreate => "KUBEVIRT_VMI_CREATE_TIMEOUT_SECS"
  | replicaSetCreate => "KUBEVIRT_VMIRS_CREATE_TIMEOUT_SECS"
  | dataVolumeCreate => "KUBEVIRT_DV_CREATE_TIMEOUT_SECS"
  | delete => "KUBEVIRT_DELETE_TIMEOUT_SECS"

/-- All variables, in the order in which faults are looked for. -/
def Variable.all : List Variable :=
  [space, wait, pause, virtualMachineCreate, instanceCreate, replicaSetCreate, dataVolumeCreate,
    delete]

/-- The values of variables by their names. -/
abbrev Lookup := String → Option String

/-- A namespace, without the blanks around it. -/
def readSpace (raw : Option String) : Except ConfigFault String :=
  match raw with
  | none => .ok standard.space
  | some value =>
    let space := Text.trim value
    if space.isEmpty then .error (.emptyNamespace Variable.space.name) else .ok space

def trueWords : List String := ["1", "true", "yes", "on"]
def falseWords : List String := ["0", "false", "no", "off"]

/-- A switch (`parse_bool`), whatever the case of its letters and the blanks around it. -/
def readSwitch (raw : Option String) : Except ConfigFault Bool :=
  match raw with
  | none => .ok standard.wait
  | some value =>
    let word := Kind.lowerCase (Text.trim value)
    if word ∈ trueWords then .ok true
    else if word ∈ falseWords then .ok false
    else .error (.notBoolean Variable.wait.name value)

/-- A whole number of seconds (`parse_secs`), without the blanks around it. -/
def readSeconds (v : Variable) (default : Duration) (raw : Option String) :
    Except ConfigFault Duration :=
  match raw with
  | none => .ok default
  | some value =>
    match Count.ofText (Text.trim value) with
    | .ok seconds => .ok (.ofSeconds seconds)
    | .error fault => .error (.notSeconds v.name value fault)

/-- The pause between two looks, which is not zero. -/
def readPause (raw : Option String) : Except ConfigFault Duration := do
  let pause ← readSeconds .pause standard.pause raw
  if pause.isZero then .error (.zeroPause Variable.pause.name) else .ok pause

/-- Reads the configuration from its variables (`from_lookup`). The first faulty one ends the reading. -/
def ofLookup? (lookup : Lookup) : Except ConfigFault Config := do
  let value (v : Variable) := lookup v.name
  let space ← readSpace (value .space)
  let wait ← readSwitch (value .wait)
  let pause ← readPause (value .pause)
  let t := Timeouts.standard
  let machine ← readSeconds .virtualMachineCreate t.virtualMachineCreate (value .virtualMachineCreate)
  let running ← readSeconds .instanceCreate t.instanceCreate (value .instanceCreate)
  let set ← readSeconds .replicaSetCreate t.replicaSetCreate (value .replicaSetCreate)
  let disk ← readSeconds .dataVolumeCreate t.dataVolumeCreate (value .dataVolumeCreate)
  let delete ← readSeconds .delete t.delete (value .delete)
  .ok ⟨space, wait, pause, ⟨machine, running, set, disk, delete⟩⟩

/-- Reads the configuration from its variables. -/
def ofLookup (lookup : Lookup) : Except LifecycleError Config :=
  (ofLookup? lookup).mapError .invalidConfig

end Config

end VirtLifecycle
