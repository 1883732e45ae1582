/-
Module: VirtLifecycle.Proofs.Cluster.Locality
Purpose: Each call to a cluster in memory is about one kind and id. While no failure is arranged, its
  answer depends on what is stored and scripted there, and it changes nothing that is stored or scripted
  elsewhere.
Main exports: Call.about, Cluster.stored_answer_of_ne, Cluster.scripted_answer_of_ne, Cluster.LikeOn,
  Cluster.reserves
-/
import VirtLifecycle.Proofs.Cluster.Events
import VirtLifecycle.Proofs.Plan.Interleaving

namespace VirtLifecycle

/-- The kind and the id that a call is about. -/
def Call.about : Call → Kind × ResourceId
  | @create kind object => (kind, object.ownId)
  | get kind id | update kind id _ | delete kind id => (kind, id)

theorem Change.at?_of_ne {change : Change} {kind : Kind} {id : ResourceId}
    (other : (kind, id) ≠ (change.kind, change.id)) : change.at? kind id = none := by
  rw [at?, dif_neg]
  rintro ⟨rfl, rfl⟩
  exact other rfl

/-- A call changes nothing but what it is about. -/
theorem Event.about_of_change? {call : Call} {answer : call.Reply} {change : Change}
    (changes : Event.change? ⟨.call call, answer⟩ = some change) :
    call.about = (change.kind, change.id) := by
  cases call with
  | get => cases changes
  | create | update | delete =>
    cases answer with
    | error cause => cases changes
    | ok result =>
      cases changes
      rfl

namespace Cluster

section Answer

variable (c : Cluster) (call : Call) {kind : Kind} {id : ResourceId}

theorem armed_answer (unarmed : c.armed = none) : (c.answer call).2.armed = none := by
  rw [(c.effect_answer call).armed, unarmed]
  exact ite_self none

theorem stored_answer_of_ne (other : (kind, id) ≠ call.about) :
    (c.answer call).2.stored kind id = c.stored kind id := by
  rw [(c.effect_answer call).stored]
  cases changes : Event.change? ⟨.call call, (c.answer call).1⟩ with
  | none => rfl
  | some change =>
    rw [Event.about_of_change? changes] at other
    rw [Option.bind_some, Change.at?_of_ne other, Option.getD_none]

theorem scripted_answer_of_ne (other : (kind, id) ≠ call.about) :
    (c.answer call).2.scripted kind id = c.scripted kind id := by
  have noGet : Event.isGetOf kind id ⟨.call call, (c.answer call).1⟩ = false := by
    cases call with
    | create | update | delete => rfl
    | get k i =>
      rw [Event.isGetOf, decide_eq_false_iff_not]
      rintro ⟨rfl, rfl⟩
      exact other rfl
  rw [(c.effect_answer call).scripted, noGet]
  exact List.append_nil _

end Answer

/-- No failure is arranged, and the same is stored and scripted under the given kinds and ids. -/
structure LikeOn (keys : List (Kind × ResourceId)) (c d : Cluster) : Prop where
  unarmed : c.armed = none ∧ d.armed = none
  stored : ∀ kind id, (kind, id) ∈ keys → c.stored kind id = d.stored kind id
  scripted : ∀ kind id, (kind, id) ∈ keys → c.scripted kind id = d.scripted kind id

namespace LikeOn

variable {keys : List (Kind × ResourceId)} {c d : Cluster} {call : Call}

theorem refl (keys : List (Kind × ResourceId)) (unarmed : c.armed = none) : LikeOn keys c c :=
  ⟨⟨unarmed, unarmed⟩, fun _ _ _ => rfl, fun _ _ _ => rfl⟩

/-- What a call is about tells its answer. -/
theorem answer_eq (like : LikeOn keys c d) (about : call.about ∈ keys) :
    (c.answer call).1 = (d.answer call).1 := by
  obtain ⟨armed, armed'⟩ := like.unarmed
  have stored := like.stored _ _ about
  cases call with
  | get kind id =>
    rw [answer_get, answer_get, like.scripted _ _ about, stored]
  | create object =>
    rw [answer_create_eq, answer_create_eq, armed, armed', stored]
    cases object.metadata.space with
    | none => rfl
    | some space => cases d.stored _ object.ownId <;> rfl
  | update kind id patch =>
    rw [answer_update_eq, answer_update_eq, armed, armed', stored]
    cases d.stored kind id with
    | none => rfl
    | some object => cases applies : patched? object patch <;> simp only [Option.bind_some, applies]
  | delete kind id =>
    rw [answer_delete_eq, answer_delete_eq, armed, armed', stored]
    cases d.stored kind id <;> rfl

/-- A call about what two clusters have in common does the same there. -/
theorem own (like : LikeOn keys c d) (about : call.about ∈ keys) :
    LikeOn keys (c.answer call).2 (d.answer call).2 := by
  have effect := c.effect_answer call
  have effect' := d.effect_answer call
  rw [← like.answer_eq about] at effect'
  refine ⟨⟨c.armed_answer call like.unarmed.1, d.armed_answer call like.unarmed.2⟩,
    fun kind id mem => ?_, fun kind id mem => ?_⟩
  · rw [effect.stored, effect'.stored, like.stored kind id mem]
  · rw [effect.scripted, effect'.scripted, like.scripted kind id mem]

/-- A call about something else does nothing there. -/
theorem other (like : LikeOn keys c d) (about : call.about ∉ keys) :
    LikeOn keys (c.answer call).2 d := by
  have ne : ∀ kind id, (kind, id) ∈ keys → (kind, id) ≠ call.about := fun kind id mem same =>
    about (same ▸ mem)
  refine ⟨⟨c.armed_answer call like.unarmed.1, like.unarmed.2⟩, fun kind id mem => ?_,
    fun kind id mem => ?_⟩
  · rw [c.stored_answer_of_ne call (ne kind id mem), like.stored kind id mem]
  · rw [c.scripted_answer_of_ne call (ne kind id mem), like.scripted kind id mem]

end LikeOn

/-- A cluster reserves what is under some kinds and ids for the calls about them. -/
theorem reserves (keys : List (Kind × ResourceId)) :
    Plan.Reserves respond (·.about ∈ keys) (·.about ∉ keys) (LikeOn keys) where
  own _ _ about like := ⟨congrArg (·, Duration.zero) (like.answer_eq about), like.own about⟩
  other _ _ about like := like.other about

end Cluster

end VirtLifecycle
