/-
Module: VirtLifecycle.Resource.Condition
Purpose: The conditions that the status of a resource lists.
Specification: [SPEC 3 Data model] (`kubevirt-crds`, `ResourceCondition`).
Main exports: Condition, Condition.codec
-/
import VirtLifecycle.Codec

namespace VirtLifecycle

/-- One condition of a resource: a type, whether it holds ("True", "False" or "Unknown"), and why. -/
structure Condition where
  type : String
  status : String
  reason : Option String := none
  message : Option String := none
  lastProbeTime : Option Timestamp := none
  lastTransitionTime : Option Timestamp := none
deriving DecidableEq, Repr, Inhabited

/-- Conditions have their timestamps in full. -/
def Condition.codec : Codec Condition :=
  .record .positional
    (.cons "type" (.required .text) <|
      .cons "status" (.required .text) <|
      .cons "reason" (.optional .text) <|
      .cons "message" (.optional .text) <|
      .cons "lastProbeTime" (.optional .timestamp) <|
      .cons "lastTransitionTime" (.optional .timestamp) .nil)
    { take := fun c =>
        (c.type, c.status, c.reason, c.message, c.lastProbeTime, c.lastTransitionTime, ())
      make := fun (type, status, reason, message, lastProbeTime, lastTransitionTime, ()) =>
        { type, status, reason, message, lastProbeTime, lastTransitionTime }
      make_take := fun _ => rfl
      take_make := fun _ => rfl }

end VirtLifecycle
