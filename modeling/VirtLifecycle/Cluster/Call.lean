/-
Module: VirtLifecycle.Cluster.Call
Purpose: The calls that a cluster answers: create, get, update and delete for objects of each kind.
Specification: [SPEC 6 External interfaces], the client collaborator (`KubeVirtClientTrait`):
  `create_*`, `get_*`, `update_*` and `delete_*` of the four kinds are one call each, with the kind as a
  parameter.
Main exports: Call, Call.Answer, Call.Reply, Call.isGet
-/
import VirtLifecycle.Cluster.Error
import VirtLifecycle.Resource.Basic

namespace VirtLifecycle

/-- A call to the cluster (`create_*`, `get_*`, `update_*`, `delete_*`). -/
inductive Call where
  | create {kind : Kind} (object : Resource kind)
  | get (kind : Kind) (id : ResourceId)
  /-- merges a patch into an object -/
  | update (kind : Kind) (id : ResourceId) (patch : Freeform)
  | delete (kind : Kind) (id : ResourceId)

namespace Call

instance : Inhabited Call := ⟨get .virtualMachine ⟨"", ""⟩⟩

/-- What a call that succeeds is answered with. A get finds an object or none. -/
abbrev Answer : Call → Type
  | @create k _ => Resource k
  | get k _ => Option (Resource k)
  | update k _ _ => Resource k
  | delete _ _ => Unit

/-- What a call is answered with. -/
abbrev Reply (call : Call) : Type := Except ClientError call.Answer

/-- Whether the call only reads. -/
def isGet : Call → Bool
  | get _ _ => true
  | _ => false

end Call

end VirtLifecycle
