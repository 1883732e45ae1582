/-
Module: VirtLifecycle.Kind
Purpose: The four kinds of resources and their names: the kind name, the spellings a command accepts,
  and the group, version and plural that make up their addresses.
Specification: [SPEC 6 External interfaces], group, version and resource (`kubevirt-provider`,
  `ResourceKind`); `ofSpelling?` is how a command line names a kind, `ofName?` how a manifest does.
Main exports: Kind, Kind.name, Kind.ofSpelling?, Kind.ofName?, Kind.apiVersion, Kind.collectionPath
-/

namespace VirtLifecycle

/-- The kinds of resources that are managed (`ResourceKind`). -/
inductive Kind where
  /-- a machine that is kept running or stopped as its description asks -/
  | virtualMachine
  /-- a running machine -/
  | virtualMachineInstance
  /-- a number of identical running machines (VirtualMachineInstanceReplicaSet) -/
  | replicaSet
  /-- a disk filled from a source -/
  | dataVolume
deriving DecidableEq, Repr, Inhabited

namespace Kind

def all : List Kind := [virtualMachine, virtualMachineInstance, replicaSet, dataVolume]

/-- The name that objects of the kind carry (`as_str`). -/
def name : Kind → String
  | virtualMachine => "VirtualMachine"
  | virtualMachineInstance => "VirtualMachineInstance"
  | replicaSet => "VirtualMachineInstanceReplicaSet"
  | dataVolume => "DataVolume"

/-- The customary abbreviation of the kind. -/
def shortName : Kind → String
  | virtualMachine => "vm"
  | virtualMachineInstance => "vmi"
  | replicaSet => "vmirs"
  | dataVolume => "dv"

/-- The kind name in lower case. -/
def singular : Kind → String
  | virtualMachine => "virtualmachine"
  | virtualMachineInstance => "virtualmachineinstance"
  | replicaSet => "virtualmachineinstancereplicaset"
  | dataVolume => "datavolume"

/-- The word for the collection of all objects of the kind. -/
def plural : Kind → String
  | virtualMachine => "virtualmachines"
  | virtualMachineInstance => "virtualmachineinstances"
  | replicaSet => "virtualmachineinstancereplicasets"
  | dataVolume => "datavolumes"

def group : Kind → String
  | virtualMachine | virtualMachineInstance | replicaSet => "kubevirt.io"
  | dataVolume => "cdi.kubevirt.io"

def version : Kind → String
  | virtualMachine | virtualMachineInstance | replicaSet => "v1"
  | dataVolume => "v1beta1"

/-- Group and version, as objects of the kind carry them. -/
def apiVersion (k : Kind) : String :=
  k.group ++ "/" ++ k.version

/-- The address of the objects of the kind in a namespace. -/
def collectionPath (k : Kind) (space : String) : String :=
  "/apis/" ++ k.group ++ "/" ++ k.version ++ "/namespaces/" ++ space ++ "/" ++ k.plural

/-- The kind with exactly this name. -/
def ofName? (s : String) : Option Kind :=
  all.find? (·.name == s)

/-- A text with the letters A to Z made small. -/
def lowerCase (s : String) : String :=
  String.ofList (s.toList.map Char.toLower)

/-- The kind whose name or abbreviation this is (`from_str`), whatever the case of its letters. -/
def ofSpelling? (s : String) : Option Kind :=
  all.find? fun k => k.singular == lowerCase s || k.shortName == lowerCase s

@[simp] theorem ofName?_name (k : Kind) : ofName? k.name = some k := by
  cases k <;> decide

end Kind

end VirtLifecycle
