/-
Module: VirtLifecycle.ResourceId
Purpose: The identity of an object among those of its kind: a namespace and a name, written with a
  slash between them.
Specification: [SPEC 3 Data model], target resource (`kubevirt-provider`, `ResourceId`):
  `namespace/name`.
Main exports: ResourceId, ResourceId.text, ResourceId.ofText?
-/

namespace VirtLifecycle

/-- Namespace (`space`) and name of an object. -/
structure ResourceId where
  space : String
  name : String
deriving DecidableEq, Repr, Inhabited

namespace ResourceId

/-- The written form. -/
def text (id : ResourceId) : String :=
  id.space ++ "/" ++ id.name

/-- Reads a written form (`from_str`): one slash with something on either side of it. -/
def ofText? (s : String) : Option ResourceId :=
  let space := s.toList.takeWhile (· != '/')
  match s.toList.dropWhile (· != '/') with
  | [] => none
  | _ :: name =>
    if space.isEmpty ∨ name.isEmpty ∨ name.contains '/' then none
    else some ⟨String.ofList space, String.ofList name⟩

end ResourceId

end VirtLifecycle
