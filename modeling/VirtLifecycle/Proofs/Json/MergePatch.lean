/-
Module: VirtLifecycle.Proofs.Json.MergePatch
Purpose: What a merge patch does, member by member. A patch changes each member on its own; merging keeps
  the keys ascending. The same patch merged again changes nothing. Compatible patches, which meet only in
  objects, can be merged in either order. What is at a path that a patch does not touch stays there.
Main exports: Keyed.ext_find?, Json.mergeAt, Json.find?_mergePatch, Json.isCanonical_mergePatch,
  Json.isUsable_mergePatch, Json.mergePatch_again, Json.Compatible, Json.mergePatch_comm, Json.Untouched,
  Json.at?_mergePatch
-/
import VirtLifecycle.Json.MergePatch
import VirtLifecycle.Proofs.Json.Canonical

namespace VirtLifecycle

namespace Keyed

variable {α : Type}

/-- An ascending list is told by what is under each key. -/
theorem ext_find? {map other : Keyed α} (ascending : Ascending map) (ascending' : Ascending other)
    (same : ∀ key, find? key map = find? key other) : map = other := by
  have nodup : ∀ {map : Keyed α}, Ascending map → map.Nodup := by
    intro map ascending
    apply ascending.imp
    intro a b below equal
    exact String.lt_irrefl _ (equal ▸ below)
  apply List.Perm.eq_of_pairwise (fun a b _ _ below above => absurd below (String.lt_asymm above))
    ascending ascending'
  rw [List.perm_ext_iff_of_nodup (nodup ascending) (nodup ascending')]
  rintro ⟨key, value⟩
  constructor
  · intro mem
    exact mem_of_find? ((same key).symm.trans (find?_of_mem ascending mem))
  · intro mem
    exact mem_of_find? ((same key).trans (find?_of_mem ascending' mem))

end Keyed

namespace Json

/-! ### Member by member -/

/-- What a change makes of a member. Either may be missing; a null takes the member out. -/
def mergeAt (target change : Option Json) : Option Json :=
  match change with
  | none => target
  | some patch => if patch.isNull then none else some (mergePatch (target.getD null) patch)

@[simp] theorem mergeAt_none (target : Option Json) : mergeAt target none = target := rfl

/-- Where the patch holds something other than null, that is merged into what the target has, or into null
if it has nothing. -/
theorem mergeAt_some {patch : Json} (shown : patch.isNull = false) (target : Option Json) :
    mergeAt target (some patch) = some (mergePatch (target.getD null) patch) := by
  rw [mergeAt, shown]
  rfl

/-- A value that is no object holds nothing under any key, and neither do the members it counts for in a
merge. -/
theorem find?_membersOrNone (key : String) (value : Json) :
    Keyed.find? key value.membersOrNone = value.find? key := by
  cases value <;> rfl

/-- The members that a canonical value counts for in a merge are canonical and ascend. -/
theorem IsCanonical.membersOrNone {value : Json} (canonical : value.IsCanonical) :
    Keyed.Ascending value.membersOrNone ∧ MembersCanonical value.membersOrNone := by
  cases value with
  | object members => exact canonical
  | null | bool | number | text | array => exact ⟨List.Pairwise.nil, trivial⟩

theorem IsCanonical.find? {value member : Json} (canonical : value.IsCanonical) {key : String}
    (found : value.find? key = some member) : member.IsCanonical := by
  rw [← find?_membersOrNone] at found
  exact membersCanonical_iff.mp canonical.membersOrNone.2 _ (Keyed.mem_of_find? found)

/-- One change, of the member under its key. -/
theorem find?_change {members : Keyed Json} (ascending : Keyed.Ascending members) (key other : String)
    (change : Json) :
    Keyed.find? other (if change.isNull then Keyed.erase key members
        else Keyed.insert key (mergePatch ((Keyed.find? key members).getD null) change) members) =
      if key = other then mergeAt (Keyed.find? other members) (some change)
      else Keyed.find? other members := by
  simp only [mergeAt]
  cases change.isNull with
  | true =>
    simp only [if_true]
    exact Keyed.find?_erase ascending key other
  | false =>
    simp only [Bool.false_eq_true, if_false]
    rw [Keyed.find?_insert]
    split
    · rename_i same
      rw [same]
    · rfl

/-- After a merge each key holds what the merge makes of what it held, and no other key has a say in it. The
recursion of the merge is over the members of the patch; that keys stand once in it lets each be looked at
alone. -/
theorem find?_mergeMembers {members changes : Keyed Json} (ascending : Keyed.Ascending members)
    (ascending' : Keyed.Ascending changes) (key : String) :
    Keyed.find? key (mergeMembers members changes) =
      mergeAt (Keyed.find? key members) (Keyed.find? key changes) := by
  induction changes generalizing members with
  | nil => rfl
  | cons entry rest ih =>
    obtain ⟨k, change⟩ := entry
    obtain ⟨below, ascending'⟩ := List.pairwise_cons.mp ascending'
    have next : Keyed.Ascending (if change.isNull then Keyed.erase k members
        else Keyed.insert k (mergePatch ((Keyed.find? k members).getD null) change) members) := by
      split
      · exact ascending.erase k
      · exact ascending.insert k _
    rw [mergeMembers, ih next ascending', find?_change ascending, Keyed.find?]
    split
    · rename_i same
      have last : Keyed.find? key rest = none :=
        Keyed.find?_eq_none_of_below fun entry mem => same ▸ below entry mem
      rw [last]
      rfl
    · rfl

/-- An object patch changes each member on its own. -/
theorem find?_mergePatch {target : Json} {changes : Keyed Json} (canonical : target.IsCanonical)
    (canonical' : (object changes).IsCanonical) (key : String) :
    (mergePatch target (object changes)).find? key =
      mergeAt (target.find? key) (Keyed.find? key changes) := by
  rw [mergePatch, Json.find?, find?_mergeMembers canonical.membersOrNone.1 canonical'.1,
    find?_membersOrNone]

/-! ### Ascending keys -/

mutual

/-- Merging keeps the keys ascending. -/
theorem isCanonical_mergePatch : {target : Json} → (patch : Json) → target.IsCanonical →
    patch.IsCanonical → (mergePatch target patch).IsCanonical
  | _, null, _, _ | _, bool _, _, _ | _, number _, _, _ | _, text _, _, _ => trivial
  | _, array _, _, canonical => canonical
  | _, object changes, canonical, canonical' =>
    isCanonical_mergeMembers changes canonical.membersOrNone canonical'.2

theorem isCanonical_mergeMembers : {members : Keyed Json} → (changes : List (String × Json)) →
    Keyed.Ascending members ∧ MembersCanonical members → MembersCanonical changes →
    Keyed.Ascending (mergeMembers members changes) ∧ MembersCanonical (mergeMembers members changes)
  | _, [], canonical, _ => canonical
  | members, (key, change) :: rest, canonical, canonical' => by
    obtain ⟨ascending, given⟩ := canonical
    rw [membersCanonical_iff] at given
    have target : ((Keyed.find? key members).getD null).IsCanonical := by
      cases found : Keyed.find? key members with
      | none => trivial
      | some value => exact given _ (Keyed.mem_of_find? found)
    apply isCanonical_mergeMembers rest _ canonical'.2
    split
    · refine ⟨ascending.erase key, membersCanonical_iff.mpr fun entry mem => ?_⟩
      exact given entry (Keyed.mem_of_mem_erase mem)
    · refine ⟨ascending.insert key _, membersCanonical_iff.mpr fun entry mem => ?_⟩
      rcases Keyed.eq_or_mem_of_mem_insert mem with rfl | before
      · exact isCanonical_mergePatch change target canonical'.1
      · exact given entry before

end

/-- A value that may be missing has ascending keys. -/
def IsCanonicalAt (value : Option Json) : Prop :=
  ∀ v, value = some v → v.IsCanonical

/-- What is there is canonical, and so is the null that stands for what is not there. -/
theorem IsCanonicalAt.getD {value : Option Json} (canonical : IsCanonicalAt value) :
    (value.getD null).IsCanonical := by
  cases value with
  | none => trivial
  | some v => exact canonical v rfl

theorem IsCanonical.findAt {value : Json} (canonical : value.IsCanonical) (key : String) :
    IsCanonicalAt (value.find? key) :=
  fun _ found => canonical.find? found

/-- What a canonical patch makes of a canonical value is canonical, where there is one. -/
theorem IsCanonicalAt.mergeAt {target change : Option Json} (canonical : IsCanonicalAt target)
    (canonical' : IsCanonicalAt change) : IsCanonicalAt (mergeAt target change) := by
  intro v merged
  cases change with
  | none => exact canonical v merged
  | some patch =>
    rw [Json.mergeAt] at merged
    split at merged
    · cases merged
    · cases merged
      exact isCanonical_mergePatch patch canonical.getD (canonical' patch rfl)

/-! ### Finite numbers -/

/-- The members of an object are all usable just if whatever is found in it under a key is. -/
theorem isUsable_object_iff {members : Keyed Json} (ascending : Keyed.Ascending members) :
    (object members).isUsable = true ↔
      ∀ key value, Keyed.find? key members = some value → value.isUsable = true := by
  rw [isUsable, membersUsable_iff]
  constructor
  · intro usable key value found
    exact usable _ (Keyed.mem_of_find? found)
  · rintro usable ⟨key, value⟩ mem
    exact usable key value (Keyed.find?_of_mem ascending mem)

mutual

/-- Finite numbers merged into finite numbers are finite. -/
theorem isUsable_mergePatch : {target : Json} → (patch : Json) → target.isUsable = true →
    patch.isUsable = true → (mergePatch target patch).isUsable = true
  | _, null, _, _ | _, bool _, _, _ | _, text _, _, _ => rfl
  | _, number _, _, usable | _, array _, _, usable => usable
  | target, object changes, usable, usable' => by
    apply membersUsable_mergeMembers changes ?_ usable'
    cases target with
    | object members => exact usable
    | null | bool | number | text | array => rfl

theorem membersUsable_mergeMembers : {members : Keyed Json} → (changes : List (String × Json)) →
    membersUsable members = true → membersUsable changes = true →
    membersUsable (mergeMembers members changes) = true
  | _, [], usable, _ => usable
  | members, (key, change) :: rest, usable, usable' => by
    obtain ⟨first, later⟩ := Bool.and_eq_true_iff.mp usable'
    apply membersUsable_mergeMembers rest ?_ later
    rw [membersUsable_iff] at usable ⊢
    have target : ((Keyed.find? key members).getD null).isUsable = true := by
      cases found : Keyed.find? key members with
      | none => rfl
      | some value => exact usable _ (Keyed.mem_of_find? found)
    intro entry mem
    split at mem
    · exact usable entry (Keyed.mem_of_mem_erase mem)
    · rcases Keyed.eq_or_mem_of_mem_insert mem with rfl | before
      · exact isUsable_mergePatch change target first
      · exact usable entry before

end

mutual

/-- A patch leaves all its numbers in what it is merged into. -/
theorem isUsable_of_mergePatch : {target : Json} → (patch : Json) → target.IsCanonical →
    patch.IsCanonical → (mergePatch target patch).isUsable = true → patch.isUsable = true
  | _, null, _, _, usable | _, bool _, _, _, usable | _, number _, _, _, usable
  | _, text _, _, _, usable | _, array _, _, _, usable => usable
  | target, object changes, canonical, canonical', usable => by
    have merged := isCanonical_mergePatch (object changes) canonical canonical'
    rw [mergePatch, isUsable_object_iff merged.1] at usable
    rw [isUsable_object_iff canonical'.1]
    intro key change found
    cases shown : change.isNull with
    | true =>
      cases change with
      | null => rfl
      | bool | number | text | array | object => cases shown
    | false =>
      have there := find?_mergePatch canonical canonical' key
      rw [found, mergeAt_some shown] at there
      exact isUsable_of_mergePatch_of_mem changes canonical'.2 _ (Keyed.mem_of_find? found)
        (canonical.findAt key).getD (usable key _ there)

/-- A patch with something unusable in it leaves that in every target: there is no null in a patch's place
that could take it out again. -/
theorem isUsable_of_mergePatch_of_mem : (changes : List (String × Json)) → MembersCanonical changes →
    ∀ entry ∈ changes, ∀ {target : Json}, target.IsCanonical →
      (mergePatch target entry.2).isUsable = true → entry.2.isUsable = true
  | [], _, _, mem, _, _, _ => nomatch mem
  | (_, change) :: rest, canonical', entry, mem, _, canonical, usable => by
    rcases List.mem_cons.mp mem with rfl | later
    · exact isUsable_of_mergePatch change canonical canonical'.1 usable
    · exact isUsable_of_mergePatch_of_mem rest canonical'.2 entry later canonical usable

end

/-! ### The same patch again -/

mutual

/-- A patch that has been merged changes nothing more. -/
theorem mergePatch_again : {target : Json} → (patch : Json) → target.IsCanonical → patch.IsCanonical →
    mergePatch (mergePatch target patch) patch = mergePatch target patch
  | _, null, _, _ | _, bool _, _, _ | _, number _, _, _ | _, text _, _, _ | _, array _, _, _ => rfl
  | target, object changes, canonical, canonical' => by
    have merged := isCanonical_mergePatch (object changes) canonical canonical'
    have twice := isCanonical_mergePatch (object changes) merged canonical'
    apply congrArg object
    apply Keyed.ext_find? twice.1 merged.1
    intro key
    have before := find?_mergePatch canonical canonical' key
    have after := find?_mergePatch merged canonical' key
    rw [before] at after
    refine after.trans (Eq.trans ?_ before.symm)
    cases found : Keyed.find? key changes with
    | none => rfl
    | some change =>
      cases shown : change.isNull with
      | true => rw [mergeAt, mergeAt, if_pos shown, if_pos shown]
      | false =>
        rw [mergeAt_some shown, mergeAt_some shown, Option.getD_some]
        exact congrArg some (mergePatch_again_of_mem changes canonical'.2 _ (Keyed.mem_of_find? found)
          (canonical.findAt key).getD)

/-- A member of a patch makes the same of its target when it is made a second time. -/
theorem mergePatch_again_of_mem : (changes : List (String × Json)) → MembersCanonical changes →
    ∀ entry ∈ changes, ∀ {target : Json}, target.IsCanonical →
      mergePatch (mergePatch target entry.2) entry.2 = mergePatch target entry.2
  | [], _, _, mem, _, _ => nomatch mem
  | (_, change) :: rest, canonical', entry, mem, _, canonical => by
    rcases List.mem_cons.mp mem with rfl | later
    · exact mergePatch_again change canonical canonical'.1
    · exact mergePatch_again_of_mem rest canonical'.2 entry later canonical

end

/-! ### Compatible patches -/

/-- Two patches that meet only in objects: both are objects, and under every key present in both, both
values are objects and again compatible. -/
inductive Compatible : Json → Json → Prop where
  | object {changes changes' : List (String × Json)}
      (common : ∀ key change change', Keyed.find? key changes = some change →
        Keyed.find? key changes' = some change' → Compatible change change') :
      Compatible (object changes) (object changes')

namespace Compatible

variable {patch patch' : Json}

/-- That two patches are compatible does not depend on which of them is named first. -/
theorem symm (compatible : Compatible patch patch') : Compatible patch' patch := by
  induction compatible with
  | object common ih =>
    exact .object fun key change change' found found' => ih key change' change found' found

theorem exists_object (compatible : Compatible patch patch') :
    ∃ changes changes', patch = .object changes ∧ patch' = .object changes' := by
  cases compatible with
  | object common => exact ⟨_, _, rfl, rfl⟩

theorem isNull_left (compatible : Compatible patch patch') : patch.isNull = false := by
  cases compatible
  rfl

end Compatible

/-- Two changes, either of which may be missing, are compatible. -/
def CompatibleAt (change change' : Option Json) : Prop :=
  ∀ patch patch', change = some patch → change' = some patch' → Compatible patch patch'

/-- A value and two compatible changes of it, each of which may be missing. -/
structure Concurrent (given change change' : Option Json) : Prop where
  compatible : CompatibleAt change change'
  given : IsCanonicalAt given
  change : IsCanonicalAt change
  change' : IsCanonicalAt change'

/-- Compatible patches change each member compatibly. -/
theorem concurrent_members {target : Json} {changes changes' : List (String × Json)}
    (compatible : Compatible (object changes) (object changes')) (canonical : target.IsCanonical)
    (patchCanonical : (object changes).IsCanonical) (patchCanonical' : (object changes').IsCanonical)
    (key : String) :
    Concurrent (target.find? key) (Keyed.find? key changes) (Keyed.find? key changes') where
  compatible patch patch' found found' := by
    cases compatible with
    | object common => exact common key patch patch' found found'
  given := canonical.findAt key
  change := patchCanonical.findAt key
  change' := patchCanonical'.findAt key

/-- Compatible patches can be merged in either order. -/
theorem mergePatch_comm {patch patch' : Json} (compatible : Compatible patch patch') {target : Json}
    (canonical : target.IsCanonical) (patchCanonical : patch.IsCanonical)
    (patchCanonical' : patch'.IsCanonical) :
    mergePatch (mergePatch target patch) patch' = mergePatch (mergePatch target patch') patch := by
  induction compatible generalizing target with
  | @object changes changes' common ih =>
    have merged := isCanonical_mergePatch (object changes) canonical patchCanonical
    have merged' := isCanonical_mergePatch (object changes') canonical patchCanonical'
    have both := isCanonical_mergePatch (object changes') merged patchCanonical'
    have both' := isCanonical_mergePatch (object changes) merged' patchCanonical
    apply congrArg object
    apply Keyed.ext_find? both.1 both'.1
    intro key
    have twice := find?_mergePatch merged patchCanonical' key
    have twice' := find?_mergePatch merged' patchCanonical key
    rw [find?_mergePatch canonical patchCanonical] at twice
    rw [find?_mergePatch canonical patchCanonical'] at twice'
    refine twice.trans (Eq.trans ?_ twice'.symm)
    cases change : Keyed.find? key changes with
    | none => rfl
    | some patch =>
      cases change' : Keyed.find? key changes' with
      | none => rfl
      | some patch' =>
        have meet := common key patch patch' change change'
        rw [mergeAt_some meet.isNull_left, mergeAt_some meet.symm.isNull_left,
          mergeAt_some meet.isNull_left, mergeAt_some meet.symm.isNull_left]
        apply congrArg some
        apply ih key patch patch' change change'
        · exact (canonical.findAt key).getD
        · exact patchCanonical.find? change
        · exact patchCanonical'.find? change'

/-! ### Paths -/

/-- What is at a path of keys. -/
def at? : List String → Json → Option Json
  | [], value => some value
  | key :: rest, value => (value.find? key).bind (at? rest)

/-- A patch does not touch a path: along it the patch comes to an object that lacks the next key. -/
inductive Untouched : Json → List String → Prop where
  | lacks {changes : List (String × Json)} {key : String} {rest : List String}
      (missing : Keyed.find? key changes = none) : Untouched (object changes) (key :: rest)
  | within {changes : List (String × Json)} {key : String} {rest : List String} {change : Json}
      (found : Keyed.find? key changes = some change) (untouched : Untouched change rest) :
      Untouched (object changes) (key :: rest)

theorem Untouched.exists_object {patch : Json} {path : List String} (untouched : Untouched patch path) :
    ∃ changes, patch = object changes := by
  cases untouched with
  | lacks => exact ⟨_, rfl⟩
  | within => exact ⟨_, rfl⟩

/-- Merging leaves paths that the patch does not touch as they are. -/
theorem at?_mergePatch {patch : Json} {path : List String} (untouched : Untouched patch path)
    {target : Json} (canonical : target.IsCanonical) (canonical' : patch.IsCanonical) :
    at? path (mergePatch target patch) = at? path target := by
  induction untouched generalizing target with
  | lacks missing =>
    rw [at?, find?_mergePatch canonical canonical', missing, mergeAt_none]
    rfl
  | @within changes key rest change found untouched ih =>
    have deeper := ih (canonical.findAt key).getD (canonical'.find? found)
    obtain ⟨changes', rfl⟩ := untouched.exists_object
    rw [at?, find?_mergePatch canonical canonical', found, mergeAt_some rfl, Option.bind_some, deeper, at?]
    cases target.find? key with
    | some member => rfl
    | none =>
      -- beyond a member that is missing there is nothing, before as after
      cases untouched with
      | lacks => rfl
      | within => rfl

end Json

end VirtLifecycle
