/-
Module: VirtLifecycle.Json.MergePatch
Purpose: Merge patches (RFC 7386). A patch that is no object replaces the target. An object patch
  makes the target an object, takes out the members it holds a null for, and merges its other
  members into those of the target.
Specification: [SPEC 4.2 Resource Reconciler], `update_*`: merge patch.
Main exports: Json.mergePatch
-/
import VirtLifecycle.Json.Basic

namespace VirtLifecycle.Json

/-- The members of an object, none for any other value. -/
def membersOrNone : Json → List (String × Json)
  | object members => members
  | _ => []

mutual

/-- The target with the patch applied. -/
def mergePatch (target patch : Json) : Json :=
  match patch with
  | object changes => object (mergeMembers target.membersOrNone changes)
  | null => null
  | bool b => bool b
  | number n => number n
  | text s => text s
  | array items => array items

/-- The members with each change applied in turn. -/
def mergeMembers (members : List (String × Json)) (changes : List (String × Json)) :
    List (String × Json) :=
  match changes with
  | [] => members
  | (key, change) :: rest =>
    let merged := mergePatch ((Keyed.find? key members).getD null) change
    mergeMembers
      (if change.isNull then Keyed.erase key members else Keyed.insert key merged members) rest

end

end VirtLifecycle.Json
