/-
Module: VirtLifecycle.Proofs.Cluster.Retries
Purpose: Updates can be retried. The object that a patch leaves is stored as it has been read; the same
  patch is then merged into what is written for it, which is not what it was merged into before. It leaves
  the same object all the same, so every further call answers as the first one and changes nothing but the
  number of writes.
Main exports: Resource.patched?_again, Cluster.update_again, Cluster.afterCalls,
  Cluster.answer_afterCalls, Cluster.updates_can_be_retried
-/
import VirtLifecycle.Proofs.Cluster.Commuting
import VirtLifecycle.Proofs.Codec.Repeated

namespace VirtLifecycle

open Json (mergePatch)
open Cluster (patched?)

/-! ### One object -/

namespace Resource

variable {k : Kind} {object result : Resource k} {patch : Freeform}

/-- A patch of the object that it has left leaves that object. -/
theorem patched?_again (applies : patched? object patch = some result) :
    patched? result patch = some result := by
  have canonical := patch.canonical
  cases shown : patch.value with
  | null | bool | number | text | array =>
    rw [patched?, shown, mergePatch] at applies ⊢
    exact applies
  | object changes =>
    rw [patched?, shown] at applies ⊢
    rw [shown] at canonical
    have start : object.encode.canonical = (codec k).written (some object) := rfl
    rw [start] at applies
    exact (codec k).read_again canonical applies

end Resource

/-! ### Updates of a cluster -/

namespace Cluster

variable {c after : Cluster} {kind : Kind} {id : ResourceId} {result : Resource kind} {patch : Freeform}

/-- An object that is stored twice is stored. -/
theorem store_of_stored {object : Option (Resource kind)} (there : c.stored kind id = object) :
    c.store kind id object = c := by
  have same : setAt c.stored kind id object = c.stored := by
    funext k i
    rw [setAt]
    split
    · rename_i here
      obtain ⟨rfl, rfl⟩ := here
      exact there.symm
    · rfl
  rw [store, same]

/-- An update that succeeds has found an object, has made one of its kind of it, and has stored that in its
place. -/
theorem exists_of_update (updates : c.update kind id patch = .ok (result, after)) :
    ∃ object, c.stored kind id = some object ∧ patched? object patch = some result ∧
      after = c.store kind id (some result) := by
  rw [update] at updates
  split at updates
  · cases updates
  · rename_i object there
    split at updates
    · cases updates
    · rename_i patched applies
      cases updates
      exact ⟨object, there, applies, rfl⟩

/-- An update that has been accepted is accepted again, and leaves the cluster as it is. -/
theorem update_again (updates : c.update kind id patch = .ok (result, after)) :
    after.stored kind id = some result ∧ after.update kind id patch = .ok (result, after) := by
  obtain ⟨object, there, applies, rfl⟩ := exists_of_update updates
  have stored : (c.store kind id (some result)).stored kind id = some result := dif_pos ⟨rfl, rfl⟩
  refine ⟨stored, ?_⟩
  rw [update, stored]
  dsimp only
  rw [Resource.patched?_again applies]
  dsimp only
  rw [store_of_stored stored]

theorem updated_of_ok {answer : Resource kind × Cluster} (updates : c.update kind id patch = .ok answer) :
    c.updated kind id patch = answer.2 := by
  rw [updated, updates]

theorem updated_of_error {cause : ClientError} (fails : c.update kind id patch = .error cause) :
    c.updated kind id patch = c := by
  rw [updated, fails]

/-- The second of two equal updates does what the first one does. -/
theorem update_updated (c : Cluster) (kind : Kind) (id : ResourceId) :
    (c.updated kind id patch).update kind id patch = c.update kind id patch := by
  cases updates : c.update kind id patch with
  | error cause => rw [updated_of_error updates, updates]
  | ok answer =>
    rw [updated_of_ok updates]
    exact (update_again updates).2

/-- The same patch made again changes nothing any more, whether it succeeded the first time or not. -/
theorem updated_updated (c : Cluster) (kind : Kind) (id : ResourceId) :
    (c.updated kind id patch).updated kind id patch = c.updated kind id patch := by
  rw [updated, c.update_updated kind id]
  cases updates : c.update kind id patch with
  | error cause => rfl
  | ok answer => exact (updated_of_ok updates).symm

/-! ### Calls that are made again -/

/-- An update goes by the stored objects alone. -/
theorem update_counted (c : Cluster) (kind : Kind) (id : ResourceId) (patch : Freeform) :
    c.counted.update kind id patch =
      (c.update kind id patch).map fun answer => (answer.1, answer.2.counted) := by
  have stored : c.counted.stored = c.stored := rfl
  rw [update, update, stored]
  cases c.stored kind id with
  | none => rfl
  | some object =>
    dsimp only
    cases patched? object patch <;> rfl

theorem updated_counted (c : Cluster) (kind : Kind) (id : ResourceId) (patch : Freeform) :
    c.counted.updated kind id patch = (c.updated kind id patch).counted := by
  rw [updated, updated, update_counted]
  cases c.update kind id patch <;> rfl

/-- While nothing is armed, the answer to an update and what it leaves stored are those of the update
itself, and one more write is counted. -/
theorem answer_update_of_unarmed (unarmed : c.armed = none) (kind : Kind) (id : ResourceId) (patch : Freeform) :
    c.answer (.update kind id patch) =
      ((c.update kind id patch).map Prod.fst, (c.updated kind id patch).counted) := by
  change c.write (·.update kind id patch) = _
  have counts := c.update_counted kind id patch
  rw [updated]
  cases updates : c.update kind id patch with
  | error cause =>
    rw [updates] at counts
    exact c.write_of_error unarmed counts
  | ok answer =>
    rw [updates] at counts
    exact c.write_of_ok unarmed counts

/-- What an update stores does not show in the count of writes; the call counts itself. -/
theorem writes_updated (c : Cluster) (kind : Kind) (id : ResourceId) (patch : Freeform) :
    (c.updated kind id patch).writes = c.writes := by
  cases updates : c.update kind id patch with
  | error cause => rw [updated_of_error updates]
  | ok answer =>
    obtain ⟨_, _, _, left⟩ := exists_of_update updates
    rw [updated_of_ok updates, left, store]

/-- The same cluster with another number of writes. -/
def withWrites (c : Cluster) (writes : Nat) : Cluster :=
  { c with writes := writes }

theorem withWrites_counted (unarmed : c.armed = none) (writes : Nat) :
    c.counted.withWrites writes = c.withWrites writes := by
  rw [withWrites, withWrites, counted, unarmed]

/-- The cluster after so many equal calls. -/
def afterCalls (c : Cluster) (call : Call) : Nat → Cluster
  | 0 => c
  | n + 1 => (c.answer call).2.afterCalls call n

variable (kind id)

/-- The second of two equal updates is answered as the first, and counted. -/
theorem answer_update_again (unarmed : c.armed = none) :
    let first := c.answer (.update kind id patch)
    first.2.armed = none ∧ first.2.writes = c.writes + 1 ∧
      first.2.answer (.update kind id patch) = (first.1, first.2.counted) := by
  intro first
  have answers : first = _ := answer_update_of_unarmed unarmed kind id patch
  have unarmed' : first.2.armed = none := by
    rw [answers]
    rfl
  refine ⟨unarmed', ?_, ?_⟩
  · rw [answers, counted, writes_updated]
  · rw [answer_update_of_unarmed unarmed', answers, update_counted, updated_counted,
      c.update_updated kind id, c.updated_updated kind id]
    cases c.update kind id patch <;> rfl

/-- Every further equal update is answered as the first, and changes no more than the number of writes. -/
theorem answer_afterCalls (unarmed : c.armed = none) (n : Nat) :
    let first := c.answer (.update kind id patch)
    (c.afterCalls (.update kind id patch) n).answer (.update kind id patch) =
      (first.1, first.2.withWrites (c.writes + (n + 1))) := by
  induction n generalizing c with
  | zero =>
    obtain ⟨-, writes, -⟩ := answer_update_again kind id unarmed
    rw [afterCalls, Nat.zero_add, ← writes]
    rfl
  | succ n ih =>
    obtain ⟨unarmed', writes, again⟩ := answer_update_again kind id unarmed
    have count : c.writes + 1 + (n + 1) = c.writes + (n + 1 + 1) := by omega
    rw [afterCalls, ih unarmed', again, writes, count]
    dsimp only
    rw [withWrites_counted unarmed']

/-- **Updates can be retried.** An update that is accepted is accepted again with the same object, and
leaves the cluster as it was after the first time. One that fails leaves the cluster as it was, and fails
again. So with no failure arranged, every further call is answered as the first one, and changes no more
than the number of writes. -/
theorem updates_can_be_retried (c : Cluster) (kind : Kind) (id : ResourceId) (patch : Freeform) :
    (∀ result after, c.update kind id patch = .ok (result, after) →
        after.stored kind id = some result ∧ after.update kind id patch = .ok (result, after)) ∧
      (∀ cause, c.update kind id patch = .error cause → c.updated kind id patch = c ∧
        (c.updated kind id patch).update kind id patch = .error cause) ∧
      (c.armed = none → ∀ n,
        let first := c.answer (.update kind id patch)
        (c.afterCalls (.update kind id patch) n).answer (.update kind id patch) =
            (first.1, first.2.withWrites (c.writes + (n + 1))) ∧
          (∀ cause, first.1 = .error cause → first.2 = c.counted)) := by
  refine ⟨fun result after => update_again, fun cause fails => ?_, fun unarmed n => ⟨?_, ?_⟩⟩
  · rw [c.update_updated kind id]
    exact ⟨updated_of_error fails, fails⟩
  · exact answer_afterCalls kind id unarmed n
  · intro cause refused
    rw [answer_update_of_unarmed unarmed] at refused ⊢
    cases updates : c.update kind id patch with
    | error cause => rw [updated_of_error updates]
    | ok answer =>
      rw [updates] at refused
      cases refused

/-- A machine gets a creation time with half a second, which is not written, and is asked to run; a member
of the patch is unknown. The half second is there after the second time as well. -/
theorem updates_can_be_retried_of_machine :
    let machine : Resource .virtualMachine := ⟨{ name := some "m", space := some "n" }, {}, none⟩
    let id : ResourceId := ⟨"n", "m"⟩
    let patch : Freeform := ⟨.object [
      ("metadata", .object [("creationTimestamp", .text "2024-01-01T00:00:00.5Z")]),
      ("spec", .object [("running", .bool true), ("unknown", .bool true)])], by decide +kernel, rfl⟩
    let c := empty.add machine
    ∃ result after, c.update .virtualMachine id patch = .ok (result, after) ∧
      after.update .virtualMachine id patch = .ok (result, after) ∧
      result.metadata.creationTimestamp = some ⟨1704067200, 500000000, by decide⟩ := by
  intro machine id patch c
  have created : (patched? machine patch).map (fun result => result.metadata.creationTimestamp) =
      some (some ⟨1704067200, 500000000, by decide⟩) := by decide +kernel
  obtain ⟨result, applies, created⟩ := Option.map_eq_some_iff.mp created
  have updates : c.update .virtualMachine id patch =
      .ok (result, c.store .virtualMachine id (some result)) := by
    have there : c.stored .virtualMachine id = some machine := rfl
    rw [update, there]
    dsimp only
    rw [applies]
  obtain ⟨again, -, -⟩ := updates_can_be_retried c .virtualMachine id patch
  exact ⟨result, _, updates, (again _ _ updates).2, created⟩

end Cluster

end VirtLifecycle
