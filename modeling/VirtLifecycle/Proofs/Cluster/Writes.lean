/-
Module: VirtLifecycle.Proofs.Cluster.Writes
Purpose: What calls do to a cluster in memory. A write is counted and meets the failure that was arranged
  for it, whether or not it would have succeeded; it changes one object or none. A get changes no object
  and counts no write.
Main exports: Cluster.counted, Cluster.answer_create, Cluster.answer_update, Cluster.answer_delete,
  Cluster.HoldsSame, Cluster.holdsSame_of_onlyAsks
-/
import VirtLifecycle.Cluster.InMemory
import VirtLifecycle.Proofs.Plan.Asks

namespace VirtLifecycle.Cluster

/-- The cluster with one more write counted, and no failure arranged for the next one. -/
def counted (c : Cluster) : Cluster :=
  { c with writes := c.writes + 1, armed := none }

/-- An update that cannot succeed: a failure is arranged for it, the object is not there, or the patch
makes no object of its kind of it. -/
inductive RejectsUpdate (c : Cluster) (kind : Kind) (id : ResourceId) (patch : Freeform) : Prop where
  | armed (message : String) (arranged : c.armed = some message)
  | absent (none : c.stored kind id = none)
  | undecodable (object : Resource kind) (found : c.stored kind id = some object)
      (fails : patched? object patch = none)

/-! ### Writes -/

section Write

variable {α : Type} (c : Cluster) {change : Cluster → Except ClientError (α × Cluster)}

/-- The write that meets the armed failure fails with its message and disarms the cluster, before anything
else about it is checked. -/
theorem write_of_armed {message : String} (armed : c.armed = some message) :
    c.write change = (.error (.rejected (.arranged message)), c.counted) := by
  simp only [write, armed, counted]

/-- A write that fails by itself is counted, and leaves everything else as it was. -/
theorem write_of_error {cause : ClientError} (unarmed : c.armed = none)
    (fails : change c.counted = .error cause) : c.write change = (.error cause, c.counted) := by
  simp only [counted] at fails
  simp only [write, unarmed, fails, counted]

theorem write_of_ok {answer : α} {changed : Cluster} (unarmed : c.armed = none)
    (succeeds : change c.counted = .ok (answer, changed)) :
    c.write change = (.ok answer, changed) := by
  simp only [counted] at succeeds
  simp only [write, unarmed, succeeds]

end Write

variable (c : Cluster) (kind : Kind) (id : ResourceId)

/-- A creation without an arranged failure puts the object where none was. -/
theorem answer_create_of_free {kind : Kind} {object : Resource kind} {space : String}
    (unarmed : c.armed = none) (spaced : object.metadata.space = some space)
    (free : c.stored kind (place object space) = none) :
    c.answer (.create object) =
      (.ok object, c.counted.store kind (place object space) (some object)) := by
  change c.write (·.create object) = _
  apply c.write_of_ok unarmed
  simp [create, spaced, holds, counted, free]

/-- A creation fails if a failure is arranged for it, or if there is an object already. -/
theorem answer_create_of_taken {kind : Kind} {object : Resource kind} {space : String}
    (spaced : object.metadata.space = some space)
    (taken : c.armed ≠ none ∨ c.stored kind (place object space) ≠ none) :
    ∃ cause, c.answer (.create object) = (.error cause, c.counted) := by
  change ∃ cause, c.write (·.create object) = (.error cause, c.counted)
  cases armed : c.armed with
  | some message => exact ⟨_, c.write_of_armed armed⟩
  | none =>
    have there : c.holds kind (place object space) :=
      Option.isSome_iff_ne_none.mpr (taken.resolve_left fun armed' => armed' armed)
    refine ⟨.rejected (.exists (place object space)), c.write_of_error armed ?_⟩
    simp only [create, spaced]
    exact if_pos there

/-- A creation is rejected, or puts the object where none was. -/
theorem answer_create {kind : Kind} (object : Resource kind) :
    (∃ cause, c.answer (.create object) = (.error cause, c.counted)) ∨
      ∃ space, object.metadata.space = some space ∧ c.stored kind (place object space) = none ∧
        c.answer (.create object) =
          (.ok object, c.counted.store kind (place object space) (some object)) := by
  cases space : object.metadata.space with
  | none =>
    refine .inl ?_
    change ∃ cause, c.write (·.create object) = (.error cause, c.counted)
    cases armed : c.armed with
    | some message => exact ⟨_, c.write_of_armed armed⟩
    | none =>
      have fails : c.counted.create object = .error (.noNamespace object.metadata.anyName) := by
        rw [create, space]
      exact ⟨_, c.write_of_error armed fails⟩
  | some space' =>
    by_cases taken : c.armed ≠ none ∨ c.stored kind (place object space') ≠ none
    · exact .inl (c.answer_create_of_taken space taken)
    · simp only [ne_eq, not_or, Decidable.not_not] at taken
      exact .inr ⟨space', rfl, taken.2, c.answer_create_of_free taken.1 space taken.2⟩

/-- An update that has no object, or whose patch makes none of its kind, fails; it is counted and changes
nothing else. -/
theorem answer_update_of_rejects {patch : Freeform} (rejects : c.RejectsUpdate kind id patch) :
    ∃ cause, c.answer (.update kind id patch) = (.error cause, c.counted) := by
  change ∃ cause, c.write (·.update kind id patch) = (.error cause, c.counted)
  cases armed : c.armed with
  | some message => exact ⟨_, c.write_of_armed armed⟩
  | none =>
    cases rejects with
    | armed message arranged => cases armed.symm.trans arranged
    | absent absent =>
      have fails : c.counted.update kind id patch = .error (.rejected (.absent id)) := by
        simp only [update, counted, absent]
      exact ⟨_, c.write_of_error armed fails⟩
    | undecodable object found fails =>
      have undecodable : c.counted.update kind id patch = .error .undecodablePatch := by
        simp only [update, counted, found, fails]
      exact ⟨_, c.write_of_error armed undecodable⟩

/-- An update that finds an object and makes one of its kind of it stores that, answers with it and is
counted. -/
theorem answer_update {patch : Freeform} {object patched : Resource kind} (unarmed : c.armed = none)
    (found : c.stored kind id = some object) (applies : patched? object patch = some patched) :
    c.answer (.update kind id patch) = (.ok patched, c.counted.store kind id (some patched)) := by
  change c.write (·.update kind id patch) = _
  apply c.write_of_ok unarmed
  simp only [update, counted, found, applies]

/-- An update is rejected, or merges the patch into the object that is there. -/
theorem rejectsUpdate_or (patch : Freeform) :
    c.RejectsUpdate kind id patch ∨
      ∃ object patched, c.armed = none ∧ c.stored kind id = some object ∧
        patched? object patch = some patched := by
  cases armed : c.armed with
  | some message => exact .inl (.armed message armed)
  | none =>
    cases found : c.stored kind id with
    | none => exact .inl (.absent found)
    | some object =>
      cases applies : patched? object patch with
      | none => exact .inl (.undecodable object found applies)
      | some patched => exact .inr ⟨object, patched, rfl, rfl, applies⟩

/-- A deletion is rejected, or takes the object out that is there. -/
theorem answer_delete :
    (∃ cause, c.answer (.delete kind id) = (.error cause, c.counted)) ∨
      ∃ object, c.stored kind id = some object ∧
        c.answer (.delete kind id) = (.ok (), c.counted.store kind id none) := by
  change (∃ cause, c.write (·.delete kind id) = (.error cause, c.counted)) ∨
    ∃ object, c.stored kind id = some object ∧
      c.write (·.delete kind id) = (.ok (), c.counted.store kind id none)
  cases armed : c.armed with
  | some message => exact .inl ⟨_, c.write_of_armed armed⟩
  | none =>
    cases there : c.stored kind id with
    | none =>
      have fails : c.counted.delete kind id = .error (.rejected (.absent id)) := by
        simp [delete, holds, counted, there]
      exact .inl ⟨_, c.write_of_error armed fails⟩
    | some object =>
      have succeeds : c.counted.delete kind id = .ok ((), c.counted.store kind id none) := by
        simp [delete, holds, counted, there]
      exact .inr ⟨object, rfl, c.write_of_ok armed succeeds⟩

/-! ### Reads -/

/-- The same objects, after the same number of writes. -/
structure HoldsSame (before after : Cluster) : Prop where
  stored : after.stored = before.stored
  writes : after.writes = before.writes

theorem HoldsSame.refl : HoldsSame c c := ⟨rfl, rfl⟩

theorem HoldsSame.get {before : Cluster} (same : HoldsSame before c) :
    HoldsSame before (c.answer (.get kind id)).2 := by
  obtain ⟨stored, writes⟩ := same
  change HoldsSame before (c.get kind id).2
  unfold Cluster.get
  dsimp only
  split <;> exact ⟨stored, writes⟩

/-- Plans that only get change no object. -/
theorem holdsSame_of_onlyAsks {α : Type} {P : Call → Prop} {plan : Plan Call Call.Reply α}
    (only : plan.OnlyAsks P) (gets : ∀ call, P call → ∃ kind id, call = .get kind id) :
    HoldsSame c (plan.run respond c).final := by
  refine only.final (fun state time call allowed same => ?_) (HoldsSame.refl c)
  obtain ⟨kind, id, rfl⟩ := gets call allowed
  exact HoldsSame.get state kind id same

end VirtLifecycle.Cluster
