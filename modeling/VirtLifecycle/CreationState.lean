/-
Module: VirtLifecycle.CreationState
Purpose: How far the creation of an object has come, the one label that waiting for it looks at.
Specification: [SPEC 4.2 Resource Reconciler], the labels that statuses reduce to (`kubevirt-crds`,
  `CreationState`).
Main exports: CreationState, CreationState.label
-/

namespace VirtLifecycle

/-- The creation of an object, whatever its kind. -/
inductive CreationState where
  | creating
  | succeeded
  | failed
  /-- in a phase that is not documented; the phase is the label -/
  | unrecognized (phase : String)
deriving DecidableEq, Repr, Inhabited

namespace CreationState

/-- The text that a wait compares. -/
def label : CreationState → String
  | creating => "Creating"
  | succeeded => "Succeeded"
  | failed => "Failed"
  | unrecognized phase => phase

end CreationState

end VirtLifecycle
