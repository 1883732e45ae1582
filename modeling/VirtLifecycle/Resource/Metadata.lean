/-
Module: VirtLifecycle.Resource.Metadata
Purpose: The metadata that objects of every kind carry: their name and namespace, labels, owners, and
  what the cluster records about them.
Specification: [SPEC 3 Data model]: the `metadata` of an object of the orchestration API (`ObjectMeta`).
Main exports: Metadata, OwnerReference, ManagedFields, each with its codec, Metadata.anyName
-/
import VirtLifecycle.Codec

namespace VirtLifecycle

/-- An object that another object belongs to. -/
structure OwnerReference where
  apiVersion : String := ""
  blockOwnerDeletion : Option Bool := none
  controller : Option Bool := none
  kind : String := ""
  name : String := ""
  uid : String := ""
deriving DecidableEq, Repr, Inhabited

def OwnerReference.codec : Codec OwnerReference :=
  .record .members
    (.cons "apiVersion" .word <|
      .cons "blockOwnerDeletion" (.optional .bool) <|
      .cons "controller" (.optional .bool) <|
      .cons "kind" .word <|
      .cons "name" .word <|
      .cons "uid" .word .nil)
    { take := fun r => (r.apiVersion, r.blockOwnerDeletion, r.controller, r.kind, r.name, r.uid, ())
      make := fun (apiVersion, blockOwnerDeletion, controller, kind, name, uid, ()) =>
        { apiVersion, blockOwnerDeletion, controller, kind, name, uid }
      make_take := fun _ => rfl
      take_make := fun _ => rfl }

/-- The fields of an object that one manager has set. -/
structure ManagedFields where
  apiVersion : Option String := none
  fieldsType : Option String := none
  fields : Option Freeform := none
  manager : Option String := none
  operation : Option String := none
  subresource : Option String := none
  time : Option Timestamp := none
deriving BEq, Repr, Inhabited

def ManagedFields.codec : Codec ManagedFields :=
  .record .members
    (.cons "apiVersion" (.optional .text) <|
      .cons "fieldsType" (.optional .text) <|
      .cons "fieldsV1" (.optional .freeform) <|
      .cons "manager" (.optional .text) <|
      .cons "operation" (.optional .text) <|
      .cons "subresource" (.optional .text) <|
      .cons "time" (.optional .wholeTimestamp) .nil)
    { take := fun m =>
        (m.apiVersion, m.fieldsType, m.fields, m.manager, m.operation, m.subresource, m.time, ())
      make := fun (apiVersion, fieldsType, fields, manager, operation, subresource, time, ()) =>
        { apiVersion, fieldsType, fields, manager, operation, subresource, time }
      make_take := fun _ => rfl
      take_make := fun _ => rfl }

/-- The metadata of an object. -/
structure Metadata where
  annotations : Option TextMap := none
  creationTimestamp : Option Timestamp := none
  deletionGracePeriodSeconds : Option Int64 := none
  deletionTimestamp : Option Timestamp := none
  finalizers : Option (List String) := none
  generateName : Option String := none
  generation : Option Int64 := none
  labels : Option TextMap := none
  managedFields : Option (List ManagedFields) := none
  name : Option String := none
  space : Option String := none
  ownerReferences : Option (List OwnerReference) := none
  resourceVersion : Option String := none
  selfLink : Option String := none
  uid : Option String := none
deriving BEq, Repr, Inhabited

namespace Metadata

/-- The name, or else the stem that names are generated from, or else nothing. -/
def anyName (m : Metadata) : String :=
  (m.name <|> m.generateName).getD ""

/-- The fields stand in alphabetical order, and timestamps are written in whole seconds. -/
def codec : Codec Metadata :=
  .record .members
    (.cons "annotations" (.optional .texts) <|
      .cons "creationTimestamp" (.optional .wholeTimestamp) <|
      .cons "deletionGracePeriodSeconds" (.optional .int64) <|
      .cons "deletionTimestamp" (.optional .wholeTimestamp) <|
      .cons "finalizers" (.optional (.listOf .text)) <|
      .cons "generateName" (.optional .text) <|
      .cons "generation" (.optional .int64) <|
      .cons "labels" (.optional .texts) <|
      .cons "managedFields" (.optional (.listOf ManagedFields.codec)) <|
      .cons "name" (.optional .text) <|
      .cons "namespace" (.optional .text) <|
      .cons "ownerReferences" (.optional (.listOf OwnerReference.codec)) <|
      .cons "resourceVersion" (.optional .text) <|
      .cons "selfLink" (.optional .text) <|
      .cons "uid" (.optional .text) .nil)
    { take := fun m =>
        (m.annotations, m.creationTimestamp, m.deletionGracePeriodSeconds, m.deletionTimestamp,
          m.finalizers, m.generateName, m.generation, m.labels, m.managedFields, m.name, m.space,
          m.ownerReferences, m.resourceVersion, m.selfLink, m.uid, ())
      make := fun (annotations, creationTimestamp, deletionGracePeriodSeconds, deletionTimestamp,
          finalizers, generateName, generation, labels, managedFields, name, space, ownerReferences,
          resourceVersion, selfLink, uid, ()) =>
        { annotations, creationTimestamp, deletionGracePeriodSeconds, deletionTimestamp, finalizers,
          generateName, generation, labels, managedFields, name, space, ownerReferences,
          resourceVersion, selfLink, uid }
      make_take := fun _ => rfl
      take_make := fun _ => rfl }

end Metadata

end VirtLifecycle
