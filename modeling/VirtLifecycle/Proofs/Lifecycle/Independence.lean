/-
Module: VirtLifecycle.Proofs.Lifecycle.Independence
Purpose: Tasks about different objects do not disturb each other. Two tasks that touch no common object
  may be carried out on one cluster side by side, their calls in any order. Each comes to what it comes
  to alone, and together they leave what they would leave one after the other.
Main exports: Lifecycle.Task.touched, Lifecycle.Task.onlyAsks_touched,
  Lifecycle.Task.undisturbed_by_others
-/
import VirtLifecycle.Proofs.Cluster.Locality
import VirtLifecycle.Proofs.Lifecycle.Failure

namespace VirtLifecycle.Lifecycle.Task

/-- The kinds and ids that a task touches. To delete a machine is to touch its running counterpart of
the same name, too. -/
def touched (config : Config) : Task → List (Kind × ResourceId)
  | @create kind object =>
    match prepare config object with
    | .ok (id, _) => [(kind, id)]
    | .error _ => []
  | delete .virtualMachine id => [(.virtualMachine, id), (.virtualMachineInstance, id)]
  | delete kind id => [(kind, id)]
  | read kind id | update kind id _ | existsNow kind id => [(kind, id)]
  | awaitCreated kind id _ | awaitDeleted kind id _ => [(kind, id)]
  | awaitRunning id _ => [(.virtualMachineInstance, id)]

/-! ### Calls of a task are about what it touches -/

section Calls

variable {config : Config} {kind : Kind} {id : ResourceId} {keys : List (Kind × ResourceId)}

/-- Gets of an object that is touched. -/
theorem about_of_get (touches : (kind, id) ∈ keys) (call : Call) (get : call = .get kind id) :
    call.about ∈ keys := by
  subst get
  exact touches

theorem onlyAsks_create (object : Resource kind) :
    (Lifecycle.create config object).OnlyAsks (·.about ∈ touched config (.create object)) := by
  cases prepares : prepare config object with
  | error e =>
    intro now
    rw [Lifecycle.create, prepares]
    exact .done _
  | ok prepared =>
    obtain ⟨id, submitted⟩ := prepared
    obtain ⟨-, spaced, placed⟩ := prepare_eq_ok prepares
    have own : submitted.ownId = id := (Cluster.place_eq_ownId spaced).symm.trans placed
    have touches : (kind, id) ∈ touched config (.create object) := by
      rw [touched, prepares]
      exact List.mem_singleton_self _
    rw [create_of_prepared prepares]
    apply Operation.OnlyAsks.bind
    · apply Operation.onlyAsks_call
      rw [Call.about, own]
      exact touches
    · intro answer
      unfold afterCreate
      split
      · apply Operation.OnlyAsks.bind
        · exact (onlyAsks_awaitCreated config kind id _).mono (about_of_get touches)
        · exact fun settled => Operation.onlyAsks_succeed (id, settled)
      · exact Operation.onlyAsks_succeed (id, answer)

theorem onlyAsks_update (patch : Freeform) :
    (Lifecycle.update kind id patch).OnlyAsks (·.about ∈ [(kind, id)]) := by
  have touches : (kind, id) ∈ [(kind, id)] := List.mem_singleton_self _
  apply Operation.OnlyAsks.bind
  · exact Operation.onlyAsks_call touches
  · intro _
    exact (onlyAsks_read kind id).mono (about_of_get touches)

theorem mem_touched_delete (config : Config) (kind : Kind) (id : ResourceId) :
    (kind, id) ∈ touched config (.delete kind id) := by
  cases kind with
  | virtualMachine => exact List.mem_cons_self
  | virtualMachineInstance | replicaSet | dataVolume => exact List.mem_singleton_self _

theorem onlyAsks_delete :
    (Lifecycle.delete config kind id).OnlyAsks (·.about ∈ touched config (.delete kind id)) := by
  have touches := mem_touched_delete config kind id
  apply Operation.OnlyAsks.bind
  · exact Operation.onlyAsks_call touches
  · intro _
    split
    · apply (onlyAsks_awaitGone config kind id _).mono
      rintro call (own | ⟨rfl, counterpart⟩)
      · exact about_of_get touches call own
      · exact about_of_get (List.mem_cons_of_mem _ (List.mem_singleton_self _)) call counterpart
    · exact Operation.onlyAsks_succeed ()

/-- All calls that a task can come to make are about what it touches. -/
theorem onlyAsks_touched (config : Config) (task : Task) :
    (task.perform config).OnlyAsks (·.about ∈ task.touched config) := by
  cases task with
  | create object => exact onlyAsks_create object
  | update kind id patch => exact onlyAsks_update patch
  | delete kind id => exact onlyAsks_delete
  | read kind id =>
    exact (onlyAsks_read kind id).mono (about_of_get (List.mem_singleton_self _))
  | existsNow kind id =>
    exact (onlyAsks_existsNow kind id).mono (about_of_get (List.mem_singleton_self _))
  | awaitCreated kind id timeout =>
    exact (onlyAsks_awaitCreated config kind id timeout).mono
      (about_of_get (List.mem_singleton_self _))
  | awaitDeleted kind id timeout =>
    exact (onlyAsks_awaitDeleted config kind id timeout).mono
      (about_of_get (List.mem_singleton_self _))
  | awaitRunning id timeout =>
    exact (onlyAsks_awaitRunning config id timeout).mono
      (about_of_get (List.mem_singleton_self _))

end Calls

/-! ### Two tasks side by side -/

section SideBySide

open Plan (Interleaved Run)

variable {α β : Type} {c : Cluster} {p : ClusterPlan α} {q : ClusterPlan β}
  {keys keys' : List (Kind × ResourceId)} {first first' : Run Call Cluster α}
  {second second' : Run Call Cluster β}

/-- A plan comes to what it comes to alone if the other plan touches nothing that it touches. -/
theorem alone_of_disjoint (unarmed : c.armed = none) (disjoint : keys.Disjoint keys')
    (own : p.OnlyAsks (·.about ∈ keys)) (others : q.OnlyAsks (·.about ∈ keys'))
    (joint : Interleaved Cluster.respond c p q first second) :
    first.result = (p.run Cluster.respond c).result ∧ first.calls = (p.run Cluster.respond c).calls ∧
      Cluster.LikeOn keys first.final (p.run Cluster.respond c).final := by
  have apart : q.OnlyAsks (·.about ∉ keys) := by
    apply others.mono
    intro call there here
    exact disjoint here there
  exact joint.left_alone (Cluster.reserves keys) own apart (.refl keys unarmed)

/-- What neither plan touches is as before. -/
theorem untouched (own : p.OnlyAsks (·.about ∈ keys)) (others : q.OnlyAsks (·.about ∈ keys'))
    (joint : Interleaved Cluster.respond c p q first second) {kind : Kind} {id : ResourceId}
    (outside : (kind, id) ∉ keys) (outside' : (kind, id) ∉ keys') :
    first.final.stored kind id = c.stored kind id ∧
      first.final.scripted kind id = c.scripted kind id := by
  have apart : ∀ {α : Type} {plan : ClusterPlan α} {keys : List (Kind × ResourceId)},
      (kind, id) ∉ keys → plan.OnlyAsks (·.about ∈ keys) →
      plan.OnlyAsks ((kind, id) ≠ ·.about) := by
    intro α plan keys outside only
    apply only.mono
    intro call about same
    exact outside (same ▸ about)
  have keeps : ∀ (state : Cluster) (_ : Nat) (call : Call), (kind, id) ≠ call.about →
      state.stored kind id = c.stored kind id ∧ state.scripted kind id = c.scripted kind id →
      (state.answer call).2.stored kind id = c.stored kind id ∧
        (state.answer call).2.scripted kind id = c.scripted kind id := by
    intro state time call other same
    constructor
    · exact (state.stored_answer_of_ne call other).trans same.1
    · exact (state.scripted_answer_of_ne call other).trans same.2
  exact joint.final (apart outside own) (apart outside' others) keeps ⟨rfl, rfl⟩

/-- However two plans that touch nothing in common are interleaved, they leave the same. -/
theorem final_unique (unarmed : c.armed = none) (disjoint : keys.Disjoint keys')
    (own : p.OnlyAsks (·.about ∈ keys)) (others : q.OnlyAsks (·.about ∈ keys'))
    (joint : Interleaved Cluster.respond c p q first second)
    (joint' : Interleaved Cluster.respond c p q first' second') (kind : Kind) (id : ResourceId) :
    first.final.stored kind id = first'.final.stored kind id ∧
      first.final.scripted kind id = first'.final.scripted kind id := by
  by_cases mine : (kind, id) ∈ keys
  · obtain ⟨-, -, like⟩ := alone_of_disjoint unarmed disjoint own others joint
    obtain ⟨-, -, like'⟩ := alone_of_disjoint unarmed disjoint own others joint'
    rw [like.stored kind id mine, like.scripted kind id mine]
    exact ⟨(like'.stored kind id mine).symm, (like'.scripted kind id mine).symm⟩
  by_cases yours : (kind, id) ∈ keys'
  · obtain ⟨-, -, like⟩ := alone_of_disjoint unarmed disjoint.symm others own joint.swap
    obtain ⟨-, -, like'⟩ := alone_of_disjoint unarmed disjoint.symm others own joint'.swap
    rw [joint.final_eq, joint'.final_eq, like.stored kind id yours, like.scripted kind id yours]
    exact ⟨(like'.stored kind id yours).symm, (like'.scripted kind id yours).symm⟩
  · obtain ⟨stored, scripted⟩ := untouched own others joint mine yours
    obtain ⟨stored', scripted'⟩ := untouched own others joint' mine yours
    exact ⟨stored.trans stored'.symm, scripted.trans scripted'.symm⟩

end SideBySide

/-- **Tasks about different objects do not disturb each other.** On a cluster where no failure is
arranged, two tasks that touch no common object are carried out with their calls in any order. Each comes
to the result that it comes to alone, with the same calls at the same times. What is stored and scripted
in the end is what the tasks leave one after the other. -/
theorem undisturbed_by_others (config config' : Config) (task task' : Task) (now now' : Nat)
    (c : Cluster) (unarmed : c.armed = none)
    (disjoint : (task.touched config).Disjoint (task'.touched config'))
    {first : Plan.Run Call Cluster (Except LifecycleError task.Result × Nat)}
    {second : Plan.Run Call Cluster (Except LifecycleError task'.Result × Nat)}
    (joint : Plan.Interleaved Cluster.respond c (task.perform config now) (task'.perform config' now')
      first second) :
    let alone := (task.perform config now).run Cluster.respond c
    let alone' := (task'.perform config' now').run Cluster.respond c
    let inTurn := (task'.perform config' now').run Cluster.respond alone.final
    first.result = alone.result ∧ first.calls = alone.calls ∧
      second.result = alone'.result ∧ second.calls = alone'.calls ∧
      first.final = second.final ∧ first.final.stored = inTurn.final.stored ∧
      first.final.scripted = inTurn.final.scripted := by
  intro alone alone' inTurn
  have own := onlyAsks_touched config task now
  have others := onlyAsks_touched config' task' now'
  obtain ⟨result, calls, -⟩ := alone_of_disjoint unarmed disjoint own others joint
  obtain ⟨result', calls', -⟩ := alone_of_disjoint unarmed disjoint.symm others own joint.swap
  have same := final_unique unarmed disjoint own others joint (.inTurn Cluster.respond c _ _)
  refine ⟨result, calls, result', calls', joint.final_eq, ?_, ?_⟩
  · funext kind id
    exact (same kind id).1
  · funext kind id
    exact (same kind id).2

/-- A machine is read after the deletion of its running counterpart is sent, and before that is looked
for. -/
theorem undisturbed_by_others_of_counterpart :
    let id : ResourceId := ⟨"default", "vm"⟩
    let machine : Resource .virtualMachine := ⟨{ name := some "vm", space := some "default" }, {}, none⟩
    let counterpart : Resource .virtualMachineInstance :=
      ⟨{ name := some "vm", space := some "default" }, {}, none⟩
    let c := (Cluster.empty.add machine).add counterpart
    let task : Task := .read .virtualMachine id
    let task' : Task := .delete .virtualMachineInstance id
    c.armed = none ∧ (task.touched .standard).Disjoint (task'.touched .standard) ∧
      ∃ first second, Plan.Interleaved Cluster.respond c (task.perform .standard 0)
          (task'.perform .standard 0) first second ∧
        first.result = some (.ok machine, 0) ∧ second.result = some (.ok (), 0) ∧
        second.calls =
          [(0, .delete .virtualMachineInstance id), (0, .get .virtualMachineInstance id)] ∧
        first.final.stored .virtualMachineInstance id = none := by
  intro id machine counterpart c task task'
  have unarmed : c.armed = none := rfl
  have disjoint : (task.touched .standard).Disjoint (task'.touched .standard) := by
    apply List.singleton_disjoint.mpr
    decide
  obtain ⟨found, reads, finds⟩ : ∃ found,
      task.perform .standard 0 = .ask 0 (.get .virtualMachine id) found ∧
      found (.ok (some machine)) .zero = .done (.ok machine, 0) := ⟨_, rfl, rfl⟩
  obtain ⟨deleted, deletes, looked, looks, misses⟩ : ∃ deleted,
      task'.perform .standard 0 = .ask 0 (.delete .virtualMachineInstance id) deleted ∧ ∃ looked,
      deleted (.ok ()) .zero = .ask 0 (.get .virtualMachineInstance id) looked ∧
      looked (.ok none) .zero = .done (.ok (), 0) := ⟨_, rfl, _, rfl, rfl⟩
  obtain ⟨first, second, joint⟩ : ∃ first second, Plan.Interleaved Cluster.respond c
      (task.perform .standard 0) (task'.perform .standard 0) first second := by
    rw [reads, deletes]
    apply Exists.intro
    apply Exists.intro
    apply Plan.Interleaved.right
    change Plan.Interleaved _ _ _ (deleted (.ok ()) .zero) _ _
    rw [looks]
    apply Plan.Interleaved.left
    apply Plan.Interleaved.right
    change Plan.Interleaved _ _ (found (.ok (some machine)) .zero) (looked (.ok none) .zero) _ _
    rw [finds, misses]
    exact .ended (.done _) (.done _)
  obtain ⟨result, -, result', calls', -, stored, -⟩ :=
    undisturbed_by_others .standard .standard task task' 0 0 c unarmed disjoint joint
  refine ⟨unarmed, disjoint, first, second, joint, result, result', calls', ?_⟩
  rw [stored]
  rfl

end VirtLifecycle.Lifecycle.Task
