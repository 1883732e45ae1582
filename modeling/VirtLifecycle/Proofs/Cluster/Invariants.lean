/-
Module: VirtLifecycle.Proofs.Cluster.Invariants
Purpose: What holds of all stored objects of a cluster. A law about objects and the ids under which they
  are stored holds whatever is done to an empty cluster, if all objects that are put in keep it and no
  update breaks it.
Main exports: Law, Law.Holds, Law.Respects, Law.Holds.act, Law.holds_record
-/
import VirtLifecycle.Proofs.Cluster.History

namespace VirtLifecycle

/-- An accepted update answers what the patch makes of the stored object. -/
theorem Cluster.patched?_of_accepted {c : Cluster} {kind : Kind} {id : ResourceId} {patch : Freeform}
    {result : Resource kind} (accepted : (c.answer (.update kind id patch)).1 = .ok result) :
    ∃ object, c.stored kind id = some object ∧ patched? object patch = some result := by
  rw [answer_update_eq] at accepted
  split at accepted
  · cases accepted
  · cases accepted
  · cases accepted
  · rename_i object _ _ there applies
    cases accepted
    rw [there, Option.bind_some] at applies
    exact ⟨object, there, applies⟩

/-- What may hold of an object and the id under which it is stored. -/
abbrev Law := (kind : Kind) → ResourceId → Resource kind → Prop

namespace Law

variable (law : Law)

/-- Every stored object keeps the law. -/
def Holds (c : Cluster) : Prop :=
  ∀ kind id object, c.stored kind id = some object → law kind id object

/-- An action that puts in no object against the law, and no update that breaks it. -/
def Respects : Action → Prop
  | .add object | .call (.create object) => law _ object.ownId object
  | .call (.update kind id patch) => ∀ object result, law kind id object →
      Cluster.patched? object patch = some result → law kind id result
  | _ => True

variable {law} {c : Cluster}

theorem holds_empty : law.Holds Cluster.empty :=
  fun _ _ _ found => nomatch found

/-- What a respectful action puts under an id keeps the law. -/
theorem Holds.put (holds : law.Holds c) {action : Action} (respects : law.Respects action)
    {change : Change} (changes : Event.change? ⟨action, (c.act action).1⟩ = some change)
    {object : Resource change.kind} (left : change.left = some object) :
    law change.kind change.id object := by
  cases action with
  | script | holds | arm => cases changes
  | add put =>
    cases changes
    cases left
    exact respects
  | call call =>
    change Event.change? ⟨.call call, (c.answer call).1⟩ = some change at changes
    cases answered : (c.answer call).1 with
    | error cause =>
      rw [answered] at changes
      cases call <;> cases changes
    | ok answer =>
      rw [answered] at changes
      cases call with
      | get => cases changes
      | create put =>
        cases changes
        cases left
        exact respects
      | update kind id patch =>
        cases changes
        cases left
        obtain ⟨before, there, applies⟩ := Cluster.patched?_of_accepted answered
        exact respects before _ (holds kind id before there) applies
      | delete =>
        cases changes
        cases left

/-- One action leaves the law in force. -/
theorem Holds.act (holds : law.Holds c) {action : Action} (respects : law.Respects action) :
    law.Holds (c.act action).2 := by
  have effect := c.effect_act action
  intro kind id object found
  rw [effect.stored] at found
  cases changes : Event.change? ⟨action, (c.act action).1⟩ with
  | none =>
    rw [changes] at found
    exact holds kind id object found
  | some change =>
    rw [changes, Option.bind_some, Change.at?] at found
    split at found
    · rename_i here
      obtain ⟨rfl, rfl⟩ := here
      exact holds.put respects changes found
    · exact holds kind id object found

/-- Whatever is done to a cluster that was empty, the law holds if every action respects it. -/
theorem holds_record (actions : List Action) (respect : ∀ action ∈ actions, law.Respects action) :
    law.Holds (Cluster.record actions).2 := by
  induction actions using List.reverseRecOn with
  | nil => exact holds_empty
  | append_singleton before action ih =>
    rw [Cluster.record_concat]
    have held := ih fun action mem => respect action (List.mem_append_left _ mem)
    exact held.act (respect action (List.mem_append_right _ (List.mem_singleton_self _)))

end Law

end VirtLifecycle
