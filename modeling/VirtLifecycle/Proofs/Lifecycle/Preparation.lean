/-
Module: VirtLifecycle.Proofs.Lifecycle.Preparation
Purpose: Ids of objects, and objects that are prepared to be created. An object with a name gets an id and
  the namespace of that id, and is then as it should be: preparing it once more changes nothing, and a
  cluster in memory has its place under that id.
Main exports: Resource.IsUnnamed, ResourceId.IsOf, ResourceId.of_eq_ok_iff, Lifecycle.IsPrepared,
  Lifecycle.prepare_eq_error_iff, Lifecycle.prepare_eq_ok_iff
-/
import VirtLifecycle.Cluster.InMemory
import VirtLifecycle.Lifecycle

namespace VirtLifecycle

/-- The object has no name, or an empty one. -/
def Resource.IsUnnamed {kind : Kind} (object : Resource kind) : Prop :=
  object.metadata.name = none ∨ object.metadata.name = some ""

/-- The object has no namespace, or an empty one. -/
def Resource.IsUnspaced {kind : Kind} (object : Resource kind) : Prop :=
  object.metadata.space = none ∨ object.metadata.space = some ""

/-! ### Ids of objects -/

theorem Option.filter_nonempty_eq_some_iff {given : Option String} {text : String} :
    given.filter (! ·.isEmpty) = some text ↔ given = some text ∧ text ≠ "" := by
  rw [Option.filter_eq_some_iff]
  simp

theorem Option.filter_nonempty_eq_none_iff {given : Option String} :
    given.filter (! ·.isEmpty) = none ↔ given = none ∨ given = some "" := by
  cases given with
  | none => simp
  | some text => by_cases empty : text = "" <;> simp [empty]

namespace ResourceId

variable {kind : Kind} {object : Resource kind} {space : String} {id : ResourceId}

/-- The id is that of the object, if objects without a namespace are in the given one. -/
structure IsOf (id : ResourceId) (object : Resource kind) (space : String) : Prop where
  name : object.metadata.name = some id.name
  named : id.name ≠ ""
  own : ∀ given, object.metadata.space = some given → given ≠ "" → id.space = given
  default : object.IsUnspaced → id.space = space

/-- An object has no id just if it has no name, or an empty one, and this is the only failure. -/
theorem of_eq_error_iff {error : LifecycleError} :
    of object space = .error error ↔ object.IsUnnamed ∧ error = .invalidId .noName := by
  unfold of
  cases name : object.metadata.name.filter (! ·.isEmpty) with
  | none =>
    have unnamed : object.IsUnnamed := Option.filter_nonempty_eq_none_iff.mp name
    constructor
    · rintro ⟨⟩
      exact ⟨unnamed, rfl⟩
    · rintro ⟨-, rfl⟩
      rfl
  | some name' =>
    refine iff_of_false nofun ?_
    rintro ⟨unnamed, -⟩
    cases (Option.filter_nonempty_eq_none_iff.mpr unnamed).symm.trans name

/-- The id of an object is its name in its own namespace, or in the one that is given where it names none.
-/
theorem of_eq_ok_iff : of object space = .ok id ↔ id.IsOf object space := by
  unfold of
  constructor
  · intro found
    split at found
    · cases found
    · rename_i name given
      cases found
      obtain ⟨name_eq, named⟩ := Option.filter_nonempty_eq_some_iff.mp given
      refine ⟨name_eq, named, fun given own spaced => ?_, fun unspaced => ?_⟩
      · dsimp only
        rw [Option.filter_nonempty_eq_some_iff.mpr ⟨own, spaced⟩, Option.getD_some]
      · dsimp only
        rw [Option.filter_nonempty_eq_none_iff.mpr unspaced, Option.getD_none]
  · rintro ⟨name, named, own, default⟩
    rw [Option.filter_nonempty_eq_some_iff.mpr ⟨name, named⟩]
    cases given : object.metadata.space.filter (! ·.isEmpty) with
    | none => rw [Option.getD_none, ← default (Option.filter_nonempty_eq_none_iff.mp given)]
    | some space' =>
      obtain ⟨own_eq, spaced⟩ := Option.filter_nonempty_eq_some_iff.mp given
      rw [Option.getD_some, ← own space' own_eq spaced]

/-- The id of an object has a namespace if objects without one get one. -/
theorem IsOf.spaced (isOf : id.IsOf object space) (configured : space ≠ "") : id.space ≠ "" := by
  intro empty
  cases given : object.metadata.space with
  | none => exact configured ((isOf.default (.inl given)).symm.trans empty)
  | some own =>
    by_cases spaced : own = ""
    · exact configured ((isOf.default (.inr (spaced ▸ given))).symm.trans empty)
    · exact spaced ((isOf.own own given spaced).symm.trans empty)

end ResourceId

namespace Lifecycle

variable {config : Config} {kind : Kind} {object submitted : Resource kind} {id : ResourceId}

/-! ### Prepared objects -/

/-- What an object is prepared to: its id, and the object with nothing changed but its namespace, which is
that of the id. -/
structure IsPrepared (object : Resource kind) (space : String) (id : ResourceId)
    (submitted : Resource kind) : Prop extends id.IsOf object space where
  submitted : submitted = { object with metadata := { object.metadata with space := some id.space } }

/-- An object cannot be prepared just if it has no name, or an empty one, and this is the only failure. -/
theorem prepare_eq_error_iff {error : LifecycleError} :
    prepare config object = .error error ↔ object.IsUnnamed ∧ error = .invalidId .noName := by
  have nameless : ResourceId.of object config.space = .error error ↔
      object.IsUnnamed ∧ error = .invalidId .noName := ResourceId.of_eq_error_iff
  rw [← nameless, prepare]
  cases ResourceId.of object config.space with
  | ok id => exact iff_of_false nofun nofun
  | error e => rw [Except.error.injEq, Except.error.injEq]

/-- A prepared object is the object with its namespace filled in, and nothing else changed. -/
theorem prepare_eq_ok_iff :
    prepare config object = .ok (id, submitted) ↔ IsPrepared object config.space id submitted := by
  unfold prepare
  constructor
  · intro prepares
    split at prepares
    · rename_i id' found
      cases prepares
      exact ⟨ResourceId.of_eq_ok_iff.mp found, rfl⟩
    · cases prepares
  · rintro ⟨isOf, rfl⟩
    rw [ResourceId.of_eq_ok_iff.mpr isOf]
    rfl

/-- A prepared object has its id whatever namespace others get. -/
theorem IsPrepared.isOf_submitted {space : String} (prepared : IsPrepared object space id submitted)
    (configured : space ≠ "") (other : String) : id.IsOf submitted other := by
  have spaced := prepared.spaced configured
  obtain ⟨isOf, rfl⟩ := prepared
  refine ⟨isOf.name, isOf.named, ?_, ?_⟩
  · rintro _ ⟨⟩ -
    rfl
  · rintro (none | empty)
    · cases none
    · exact absurd (Option.some.inj empty) spaced

/-- Preparing an object once more changes nothing. -/
theorem IsPrepared.again {space : String} (prepared : IsPrepared object space id submitted)
    (configured : space ≠ "") (other : String) : IsPrepared submitted other id submitted := by
  refine ⟨prepared.isOf_submitted configured other, ?_⟩
  rw [prepared.submitted]

/-- A prepared object has a namespace, and is stored under its id. -/
theorem IsPrepared.space_eq {space : String} (prepared : IsPrepared object space id submitted) :
    submitted.metadata.space = some id.space ∧ Cluster.place submitted id.space = id := by
  obtain ⟨isOf, rfl⟩ := prepared
  refine ⟨rfl, ?_⟩
  simp [Cluster.place, Metadata.anyName, isOf.name]

/-- What is sent is the object in the namespace of its id, and stored under that id. -/
theorem prepare_eq_ok (prepares : prepare config object = .ok (id, submitted)) :
    submitted = object.inSpace id.space ∧ submitted.metadata.space = some id.space ∧
      Cluster.place submitted id.space = id := by
  have prepared := prepare_eq_ok_iff.mp prepares
  exact ⟨prepared.submitted, prepared.space_eq⟩

end Lifecycle

end VirtLifecycle
