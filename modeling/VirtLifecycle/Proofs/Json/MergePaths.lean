/-
Module: VirtLifecycle.Proofs.Json.MergePaths
Purpose: What a merge patch does, path by path. What the patch has at a path is merged into what the
  target has there: a value that is no object replaces it, a null takes it out, an object leaves an
  object. Paths that the patch does not touch stay as they are, so a merge brings no null to a path that
  had none.
Main exports: Json.at?_mergePatch_of_at?, Json.at?_mergePatch_of_null, Json.at?_mergePatch_eq_null,
  Json.MergesAt, Json.mergePatch_by_paths
-/
import VirtLifecycle.Proofs.Json.MergePatch

namespace VirtLifecycle.Json

variable {target patch value : Json} {path : List String}

/-! ### One path -/

/-- Only objects have anything at a path of one key or more. -/
theorem exists_object_of_at? {key : String} {rest : List String} {member : Json}
    (there : at? (key :: rest) value = some member) : ∃ members, value = object members := by
  cases value with
  | object members => exact ⟨members, rfl⟩
  | null | bool | number | text | array => cases there

/-- A patch that is no object is what is left. -/
theorem mergePatch_of_plain (plain : patch.object? = none) : mergePatch target patch = patch := by
  cases patch with
  | object changes => cases plain
  | null | bool | number | text | array => rfl

/-- An object patch, seen from the first key of a path. -/
theorem at?_cons_mergePatch {changes : List (String × Json)} (canonical : target.IsCanonical)
    (canonical' : (object changes).IsCanonical) (key : String) (rest : List String) :
    at? (key :: rest) (mergePatch target (object changes)) =
      (mergeAt (target.find? key) (Keyed.find? key changes)).bind (at? rest) := by
  rw [at?, find?_mergePatch canonical canonical']

/-- A null has nothing at a path of one key or more. -/
theorem at?_cons_getD_null {member : Option Json} {key : String} {rest : List String} :
    at? (key :: rest) (member.getD null) = member.bind (at? (key :: rest)) := by
  cases member <;> rfl

/-- What the patch has at a path is merged into what the target has there, or into nothing. -/
theorem at?_mergePatch_of_at? (canonical : target.IsCanonical) (canonical' : patch.IsCanonical)
    (there : at? path patch = some value) (shown : value.isNull = false) :
    at? path (mergePatch target patch) = some (mergePatch ((at? path target).getD null) value) := by
  induction path generalizing target patch with
  | nil =>
    cases there
    rfl
  | cons key rest ih =>
    obtain ⟨changes, rfl⟩ := exists_object_of_at? there
    obtain ⟨change, found, deeper⟩ := Option.bind_eq_some_iff.mp there
    -- a null has nothing below it and is not the value itself
    have changeShown : change.isNull = false := by
      cases rest with
      | nil =>
        cases deeper
        exact shown
      | cons next rest =>
        obtain ⟨members, rfl⟩ := exists_object_of_at? deeper
        rfl
    rw [at?_cons_mergePatch canonical canonical']
    change Keyed.find? key changes = some change at found
    rw [found, mergeAt_some changeShown, Option.bind_some,
      ih (canonical.findAt key).getD (canonical'.find? found) deeper, at?]
    cases rest with
    | nil => cases target.find? key <;> rfl
    | cons next rest => rw [at?_cons_getD_null]

/-- Where the patch has a null, the target loses what it has. -/
theorem at?_mergePatch_of_null (canonical : target.IsCanonical) (canonical' : patch.IsCanonical)
    (below : path ≠ []) (there : at? path patch = some null) :
    at? path (mergePatch target patch) = none := by
  induction path generalizing target patch with
  | nil => exact absurd rfl below
  | cons key rest ih =>
    obtain ⟨changes, rfl⟩ := exists_object_of_at? there
    obtain ⟨change, found, deeper⟩ := Option.bind_eq_some_iff.mp there
    rw [at?_cons_mergePatch canonical canonical']
    change Keyed.find? key changes = some change at found
    rw [found]
    cases rest with
    | nil =>
      cases deeper
      rfl
    | cons next rest =>
      have further := ih (canonical.findAt key).getD (canonical'.find? found)
        (List.cons_ne_nil next rest) deeper
      obtain ⟨members, rfl⟩ := exists_object_of_at? deeper
      rwa [mergeAt_some rfl, Option.bind_some]

/-- A merge brings no null to a path below the whole. -/
theorem at?_mergePatch_eq_null (canonical : target.IsCanonical) (canonical' : patch.IsCanonical)
    (below : path ≠ []) (left : at? path (mergePatch target patch) = some null) :
    at? path target = some null := by
  induction path generalizing target patch with
  | nil => exact absurd rfl below
  | cons key rest ih =>
    cases patch with
    | null | bool | number | text | array => cases left
    | object changes =>
      rw [at?_cons_mergePatch canonical canonical'] at left
      cases found : Keyed.find? key changes with
      | none =>
        rw [found, mergeAt_none] at left
        exact left
      | some change =>
        cases shown : change.isNull with
        | true =>
          rw [found, mergeAt, shown] at left
          cases left
        | false =>
          rw [found, mergeAt_some shown, Option.bind_some] at left
          cases rest with
          | nil =>
            -- merging leaves a null only where the patch is one
            cases change with
            | null => cases shown
            | bool | number | text | array | object => cases left
          | cons next rest =>
            have before := ih (canonical.findAt key).getD (canonical'.find? found)
              (List.cons_ne_nil next rest) left
            rwa [at?_cons_getD_null] at before

/-! ### All paths -/

/-- What is left at a path, told by what the patch has along it. -/
structure MergesAt (target patch result : Json) (path : List String) : Prop where
  /-- a value that is neither an object nor null is there as it is -/
  value : ∀ value, at? path patch = some value → value.object? = none → value.isNull = false →
    at? path result = some value
  /-- a null takes out what is there -/
  null : at? path patch = some null → at? path result = none
  /-- an object leaves an object -/
  object : ∀ changes, at? path patch = some (object changes) →
    ∃ members, at? path result = some (object members)
  /-- where the patch comes to an object that lacks the next key, all is as in the target -/
  untouched : Untouched patch path → at? path result = at? path target

/-- The merge is as the clauses on paths say, for every path below the root. The induction is on the path,
and each step goes into the member under one key. -/
theorem mergesAt_mergePatch (canonical : target.IsCanonical) (canonical' : patch.IsCanonical)
    (below : path ≠ []) : MergesAt target patch (mergePatch target patch) path where
  value value there plain shown := by
    rw [at?_mergePatch_of_at? canonical canonical' there shown, mergePatch_of_plain plain]
  null there := at?_mergePatch_of_null canonical canonical' below there
  object changes there := ⟨_, at?_mergePatch_of_at? canonical canonical' there rfl⟩
  untouched untouched := at?_mergePatch untouched canonical canonical'

/-- **A merge patch works path by path.** A patch that is no object is what is left. An object patch
leaves an object, in which each path shows what the patch has there: a value that is neither an object nor
null stands there as it is, a list with all that is in it; a null leaves nothing, and an object leaves an
object; and paths at which the patch comes to an object that lacks the next key show what they show in the
target. No path shows a null that did not show one before. -/
theorem mergePatch_by_paths (canonical : target.IsCanonical) (canonical' : patch.IsCanonical) :
    (patch.object? = none → mergePatch target patch = patch) ∧
      (patch.object?.isSome = true → (mergePatch target patch).object?.isSome = true ∧
        ∀ path, path ≠ [] → MergesAt target patch (mergePatch target patch) path) ∧
      ∀ path, path ≠ [] → at? path (mergePatch target patch) = some null → at? path target = some null := by
  refine ⟨mergePatch_of_plain, fun isObject => ⟨?_, fun path below => ?_⟩, fun path below left => ?_⟩
  · cases patch with
    | object changes => rfl
    | null | bool | number | text | array => cases isObject
  · exact mergesAt_mergePatch canonical canonical' below
  · exact at?_mergePatch_eq_null canonical canonical' below left

/-- A patch of nested members: a list is replaced with the null in it, a member goes, one comes in place
of a text, one that is null already stays. -/
theorem mergePatch_by_paths_of_nested :
    let target := object [("a", text "x"), ("b", object [("c", .bool true), ("d", null)]), ("e", array [])]
    let patch := object [("a", object [("f", null), ("g", .bool false)]), ("b", object [("c", null)]),
      ("e", array [null])]
    let result := mergePatch target patch
    target.IsCanonical ∧ patch.IsCanonical ∧ at? ["e"] result = some (array [null]) ∧
      at? ["a", "f"] result = none ∧ at? ["a", "g"] result = some (.bool false) ∧
      at? ["b", "c"] result = none ∧ at? ["b", "d"] result = at? ["b", "d"] target ∧
      (∃ members, at? ["a"] result = some (object members)) := by
  intro target patch result
  have canonical : target.IsCanonical := by decide +kernel
  have canonical' : patch.IsCanonical := by decide +kernel
  obtain ⟨-, merged, -⟩ := mergePatch_by_paths canonical canonical'
  have merges := fun path below => (merged rfl).2 path below
  refine ⟨canonical, canonical', ?_, ?_, ?_, ?_, ?_, ?_⟩
  · exact (merges ["e"] (by decide)).value _ rfl rfl rfl
  · exact (merges ["a", "f"] (by decide)).null rfl
  · exact (merges ["a", "g"] (by decide)).value _ rfl rfl rfl
  · exact (merges ["b", "c"] (by decide)).null rfl
  · exact (merges ["b", "d"] (by decide)).untouched (.within rfl (.lacks rfl))
  · exact (merges ["a"] (by decide)).object _ rfl

end VirtLifecycle.Json
