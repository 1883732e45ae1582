/-
Module: VirtLifecycle.Cluster.Error
Purpose: Why a call to the cluster failed.
Specification: [SPEC 7 Error handling design] (`kubevirt-client`): `ClientError` with `Kube`,
  `Serialization`, `InvalidRequest` and `Api`.
Main exports: ClientError, ClientError.message?, Rejection, RequestFault, Refusal
-/
import VirtLifecycle.ResourceId
import VirtLifecycle.Kind
import VirtLifecycle.Text.Quoted

namespace VirtLifecycle

/-- Why a cluster in memory rejects a call. -/
inductive Rejection where
  | exists (id : ResourceId)
  | absent (id : ResourceId)
  /-- a failure that was arranged beforehand -/
  | arranged (message : String)
deriving DecidableEq, Repr, Inhabited

def Rejection.message : Rejection → String
  | .exists id => id.text ++ " already exists"
  | absent id => id.text ++ " not found"
  | arranged message => message

/-- Why a request cannot be put into words of the protocol. -/
inductive RequestFault where
  | emptyName
  | invalidCharacter
  | tooLong
deriving DecidableEq, Repr, Inhabited

def RequestFault.message : RequestFault → String
  | emptyName => "failed to validate request: A non-empty name is required"
  | invalidCharacter => "failed to build request: invalid uri character"
  | tooLong => "failed to build request: uri too long"

/-- A server's refusal (`ErrorResponse`). -/
structure Refusal where
  status : String
  message : String
  reason : String
  code : Nat
deriving DecidableEq, Repr, Inhabited

/-- The refusal with its fields named. -/
def Refusal.text (r : Refusal) : String :=
  r.message ++ ": " ++ r.reason ++ " (ErrorResponse \x7b status: " ++ Text.quote r.status ++
    ", message: " ++ Text.quote r.message ++ ", reason: " ++ Text.quote r.reason ++
    ", code: " ++ toString r.code ++ " \x7d)"

/-- Why a call failed. The four variants of the specification (`ClientError`) are split by what can cause
them: `Api` is `rejected`, `InvalidRequest` is `noNamespace`, `Serialization` is `undecodablePatch`, and the
others are `Kube`. -/
inductive ClientError where
  /-- the cluster in memory rejects it -/
  | rejected (cause : Rejection)
  /-- the object to create, described by `what`, has no namespace -/
  | noNamespace (what : String)
  /-- the patched object is none of its kind -/
  | undecodablePatch
  /-- the server refuses it -/
  | refused (refusal : Refusal)
  /-- the request did not reach the server, or the answer did not come back -/
  | transport (message : String)
  /-- the request cannot be built -/
  | unbuildable (fault : RequestFault)
  /-- the answer does not decode -/
  | undecodableAnswer
  /-- the answer is no text -/
  | answerNotText
deriving DecidableEq, Repr, Inhabited

namespace ClientError

/-- The text of the error, where the wording is fixed. -/
def message? : ClientError → Option String
  | rejected cause => some ("API error: " ++ cause.message)
  | noNamespace what => some ("Invalid request: " ++ what ++ " has no namespace")
  | refused refusal => some ("Kubernetes error: ApiError: " ++ refusal.text)
  | transport message => some ("Kubernetes error: ServiceError: " ++ message)
  | unbuildable fault => some ("Kubernetes error: Failed to build request: " ++ fault.message)
  | undecodablePatch | undecodableAnswer | answerNotText => none

end ClientError

end VirtLifecycle
