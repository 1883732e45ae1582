/-
Module: VirtLifecycle.Error
Purpose: How an operation on a resource can fail, and the text that tells of it.
Specification: [SPEC 7 Error handling design] (`kubevirt-provider`): `ProviderError` with `Client`,
  `Wait`, `NotFound`, `InvalidId`, `InvalidConfig`, `Manifest`, `Yaml` and `Io`, and `WaitOperation`
  with create, delete and start.
Main exports: LifecycleError, LifecycleError.message?, LifecycleError.isTimeout, IdFault, ConfigFault,
  ManifestFault, FileFault, Transition
-/
import VirtLifecycle.Cluster.Error
import VirtLifecycle.Decimal.Count
import VirtLifecycle.Wait.Error

namespace VirtLifecycle

/-- What a wait was for (`WaitOperation`). -/
inductive Transition where
  | creation
  | deletion
  | start
deriving DecidableEq, Repr, Inhabited

def Transition.text : Transition → String
  | creation => "creation"
  | deletion => "deletion"
  | start => "start"

/-- Why there is no id. -/
inductive IdFault where
  | noName
  | malformed (written : String)
deriving DecidableEq, Repr, Inhabited

def IdFault.message : IdFault → String
  | noName => "object has no metadata.name"
  | malformed written =>
    "unexpected format of ID (" ++ written ++ "), expected namespace/name"

/-- Why a variable of the configuration is not accepted. -/
inductive ConfigFault where
  | emptyNamespace (variableName : String)
  | notBoolean (variableName value : String)
  | notSeconds (variableName value : String) (fault : Count.Fault)
  | zeroPause (variableName : String)
deriving DecidableEq, Repr, Inhabited

def ConfigFault.message : ConfigFault → String
  | emptyNamespace variableName => variableName ++ " must not be empty"
  | notBoolean variableName value => variableName ++ "=" ++ Text.quote value ++ " is not a boolean"
  | notSeconds variableName value fault =>
    variableName ++ "=" ++ Text.quote value ++ " is not a number of seconds: " ++ fault.message
  | zeroPause variableName => variableName ++ " must be greater than zero"

/-- Why a document is no manifest. -/
inductive ManifestFault where
  | missingKind
  | unsupportedKind (name : String)
  | wrongVersion (kind : Kind) (version : String)
deriving DecidableEq, Repr, Inhabited

def ManifestFault.message : ManifestFault → String
  | missingKind => "missing 'kind'"
  | unsupportedKind name => "unsupported kind '" ++ name ++ "'"
  | wrongVersion kind version =>
    kind.name ++ " must use apiVersion " ++ kind.apiVersion ++ ", got " ++ version

/-- Why a file cannot be read or an output cannot be written (`Io`). Of the faults of a file system only
these are told apart: there is no such file, its bytes are no text, and there is no room left. -/
inductive FileFault where
  | notFound
  | invalidData
  | storageFull
deriving DecidableEq, Repr, Inhabited

/-- Why an operation failed (`ProviderError`). -/
inductive LifecycleError where
  | client (cause : ClientError)
  | wait (kind : Kind) (id : ResourceId) (transition : Transition) (cause : WaitError ClientError)
  | notFound (kind : Kind) (id : ResourceId)
  | invalidId (fault : IdFault)
  | invalidConfig (fault : ConfigFault)
  | manifest (fault : ManifestFault)
  /-- a manifest that is no YAML document, or no object of its kind -/
  | yaml
  | file (fault : FileFault)
deriving DecidableEq, Repr

namespace LifecycleError

instance : Inhabited LifecycleError := ⟨yaml⟩

/-- The text of the error, where the wording is fixed. -/
def message? : LifecycleError → Option String
  | client cause => cause.message?.map ("KubeVirt client error: " ++ ·)
  | wait kind id transition cause =>
    (cause.message? ClientError.message?).map fun text =>
      "error waiting for " ++ kind.name ++ " (" ++ id.text ++ ") " ++ transition.text ++ ": " ++ text
  | notFound kind id => some (kind.name ++ " " ++ id.text ++ " not found")
  | invalidId fault => some ("Invalid resource id: " ++ fault.message)
  | invalidConfig fault => some ("Invalid configuration: " ++ fault.message)
  | manifest fault => some ("Invalid manifest: " ++ fault.message)
  | yaml => none
  | file _ => none

/-- Whether a wait ran out of time. -/
def isTimeout : LifecycleError → Bool
  | wait _ _ _ cause => cause.isTimeout
  | _ => false

end LifecycleError

/-- Reads an id. -/
def ResourceId.ofText (s : String) : Except LifecycleError ResourceId :=
  match ResourceId.ofText? s with
  | some id => .ok id
  | none => .error (.invalidId (.malformed s))

/-- Reads the spelling of a kind. -/
def Kind.ofSpelling (s : String) : Except LifecycleError Kind :=
  match Kind.ofSpelling? s with
  | some kind => .ok kind
  | none => .error (.manifest (.unsupportedKind s))

end VirtLifecycle
