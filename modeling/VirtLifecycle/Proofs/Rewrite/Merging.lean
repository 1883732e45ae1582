/-
Module: VirtLifecycle.Proofs.Rewrite.Merging
Purpose: Merging patches into what is read and written again in between. Of two compatible patches, the
  second one may be merged into the document as the first has left it, or into that as read and
  written again: the same is written in the end. It can be read exactly if each patch alone leaves
  what can be read. Stated for slots, and derived for records.
Main exports: Slot.Mergeable, Slot.mergeable_of_rejects, Slot.mergeable_of_keeps, Slot.Plain,
  Record.Mergeable, Record.Plain,
  Record.rewrite_after, Record.isSome_rewrite_both, Slot.mergeable_required, Slot.mergeable_optional
-/
import VirtLifecycle.Proofs.Rewrite.Slots

namespace VirtLifecycle

open Json (mergeAt mergePatch IsCanonicalAt Concurrent)

/-- A slot keeps up with merging, for values that are good to begin with. -/
structure Slot.Mergeable (good : Option Json → Prop) (slot : Slot) : Prop where
  stable : slot.Stable
  /-- a change of what has been written comes to the same as a change of what was given -/
  after : ∀ {given change change' written : Option Json}, good given → Concurrent given change change' →
    slot (mergeAt given change) = some written →
    slot (mergeAt (written.map Json.canonical) change') = slot (mergeAt (mergeAt given change) change')
  /-- two changes leave what can be read if each of them does -/
  both : ∀ {given change change' : Option Json}, good given → Concurrent given change change' →
    (slot given).isSome = true →
    ((slot (mergeAt (mergeAt given change) change')).isSome = true ↔
      (slot (mergeAt given change)).isSome = true ∧ (slot (mergeAt given change')).isSome = true)

namespace Slot

variable {good : Option Json → Prop} {slot : Slot}

/-- What is written by an object is canonical once it is put in canonical form, and so it is where nothing
is written. -/
theorem isCanonicalAt_written (written : Option Json) :
    IsCanonicalAt (written.map Json.canonical) := by
  intro v found
  obtain ⟨w, -, rfl⟩ := Option.map_eq_some_iff.mp found
  exact Json.isCanonical_canonical w

/-- Two slots that agree on canonical values are mergeable together. The laws of merging only ever look at
canonical values. -/
theorem Mergeable.congr {other : Slot} (mergeable : slot.Mergeable good)
    (same : ∀ {given}, IsCanonicalAt given → other given = slot given) : other.Mergeable good where
  stable {given written} canonical taken := by
    rw [same canonical] at taken
    have again := mergeable.stable canonical taken
    rw [same (isCanonicalAt_written written), again]
  after {given change change' written} fine concurrent taken := by
    have first := concurrent.given.mergeAt concurrent.change
    rw [same first] at taken
    rw [same ((isCanonicalAt_written written).mergeAt concurrent.change'),
      same (first.mergeAt concurrent.change')]
    exact mergeable.after fine concurrent taken
  both {given change change'} fine concurrent readable := by
    have first := concurrent.given.mergeAt concurrent.change
    rw [same concurrent.given] at readable
    rw [same (first.mergeAt concurrent.change'), same first,
      same (concurrent.given.mergeAt concurrent.change')]
    exact mergeable.both fine concurrent readable

/-- Only changes by objects depend on what is there, so only they have to be looked at. -/
theorem mergeable_of_objects (stable : slot.Stable)
    (after : ∀ {given change written : Option Json} {changes : List (String × Json)}, good given →
      Concurrent given change (some (.object changes)) → slot (mergeAt given change) = some written →
      slot (some (mergePatch ((written.map Json.canonical).getD .null) (.object changes))) =
        slot (some (mergePatch ((mergeAt given change).getD .null) (.object changes))))
    (both : ∀ {given : Option Json} {changes changes' : List (String × Json)}, good given →
      Concurrent given (some (.object changes)) (some (.object changes')) → (slot given).isSome = true →
      ((slot (some (mergePatch (mergePatch (given.getD .null) (.object changes))
          (.object changes')))).isSome = true ↔
        (slot (some (mergePatch (given.getD .null) (.object changes)))).isSome = true ∧
        (slot (some (mergePatch (given.getD .null) (.object changes')))).isSome = true)) :
    slot.Mergeable good where
  stable := stable
  after {given change change' written} fine concurrent taken := by
    cases change' with
    | none =>
      rw [Json.mergeAt_none, Json.mergeAt_none, taken]
      exact stable (concurrent.given.mergeAt concurrent.change) taken
    | some patch =>
      cases patch with
      | null | bool | number | text | array => rfl
      | object changes => exact after fine concurrent taken
  both {given change change'} fine concurrent readable := by
    cases change with
    | none => rw [Json.mergeAt_none, and_iff_right readable]
    | some patch =>
      cases change' with
      | none => rw [Json.mergeAt_none, Json.mergeAt_none, and_iff_left readable]
      | some patch' =>
        obtain ⟨changes, changes', rfl, rfl⟩ := (concurrent.compatible _ _ rfl rfl).exists_object
        exact both fine concurrent readable

/-- A slot that takes no objects. -/
theorem mergeable_of_rejects (stable : slot.Stable)
    (rejects : ∀ members, slot (some (.object members)) = none) : slot.Mergeable good := by
  apply mergeable_of_objects stable
  · intro given change written changes _ _ _
    rw [mergePatch, mergePatch, rejects, rejects]
  · intro given changes changes' _ _ _
    rw [mergePatch, mergePatch, mergePatch, rejects, rejects, rejects]
    simp

/-- A constant keeps its value under every patch, so any two patches can be merged one after the other. -/
theorem mergeable_constant (value : Json) : (constant value).Mergeable good where
  stable := stable_constant value
  after _ _ _ := rfl
  both _ _ _ := by simp [constant]

/-! ### Values that are kept as they are -/

/-- Values that pass a test are kept as they are, and all others are rejected. A patch leaves a value
that passes if the patch is fit, and only then. -/
structure Keeps (rewrite : Rewrite) (test fit : Json → Prop) : Prop where
  keeps : ∀ {value}, value.IsCanonical → test value → rewrite value = some value
  rejects : ∀ {value}, value.IsCanonical → ¬ test value → rewrite value = none
  fits : ∀ {target changes}, target.IsCanonical → (Json.object changes).IsCanonical →
    test (mergePatch target (.object changes)) → fit (.object changes)
  passes : ∀ {target changes}, target.IsCanonical → (Json.object changes).IsCanonical →
    target = .null ∨ test target → fit (.object changes) → test (mergePatch target (.object changes))

namespace Keeps

variable {rewrite : Rewrite} {test fit : Json → Prop}

/-- Where a rewriting keeps the values that pass its test, it leaves what it takes as it is, and what it
takes passes the test. -/
theorem eq_self (kept : Keeps rewrite test fit) {value written : Json} (canonical : value.IsCanonical)
    (taken : rewrite value = some written) : test value ∧ written = value := by
  by_cases passes : test value
  · rw [kept.keeps canonical passes] at taken
    cases taken
    exact ⟨passes, rfl⟩
  · rw [kept.rejects canonical passes] at taken
    cases taken

/-- A rewriting that keeps values is stable: what it has written it takes again, and leaves. -/
theorem stable (kept : Keeps rewrite test fit) : rewrite.Stable where
  again {value written} canonical taken := by
    obtain ⟨passes, rfl⟩ := kept.eq_self canonical taken
    rw [Json.canonical_of_isCanonical canonical, taken]
  shown {value written} canonical shown taken := by
    obtain ⟨-, rfl⟩ := kept.eq_self canonical taken
    exact shown

/-- What is given for an optional value is null or passes the test. -/
theorem passes_of_optional (kept : Keeps rewrite test fit) {given : Option Json}
    (canonical : IsCanonicalAt given) {written : Option Json}
    (taken : optional rewrite given = some written) :
    (given.getD .null = .null ∨ test (given.getD .null)) ∧
      (written.map Json.canonical).getD .null = given.getD .null := by
  cases given with
  | none =>
    cases taken
    exact ⟨.inl rfl, rfl⟩
  | some value =>
    rw [optional] at taken
    split at taken
    · rename_i null
      cases value with
      | null =>
        cases taken
        exact ⟨.inl rfl, rfl⟩
      | bool | number | text | array | object => cases null
    · obtain ⟨w, rewritten, rfl⟩ := Option.map_eq_some_iff.mp taken
      obtain ⟨passes, rfl⟩ := kept.eq_self (canonical _ rfl) rewritten
      exact ⟨.inr passes, Json.canonical_of_isCanonical (canonical _ rfl)⟩

/-- An optional slot takes what an object patch makes of a value just if that passes the test of the
rewriting: an object patch never makes null of it. -/
theorem isSome_optional (kept : Keeps rewrite test fit) {target : Json} (canonical : target.IsCanonical)
    {changes : List (String × Json)} (canonical' : (Json.object changes).IsCanonical) :
    (optional rewrite (some (mergePatch target (.object changes)))).isSome = true ↔
      test (mergePatch target (.object changes)) := by
  have merged := Json.isCanonical_mergePatch _ canonical canonical'
  have shown : (mergePatch target (.object changes)).isNull = false := rfl
  rw [optional, shown]
  constructor
  · intro readable
    obtain ⟨written, taken⟩ := Option.isSome_iff_exists.mp readable
    obtain ⟨w, rewritten, -⟩ := Option.map_eq_some_iff.mp taken
    exact (kept.eq_self merged rewritten).1
  · intro passes
    rw [kept.keeps merged passes]
    rfl

end Keeps

/-- An optional slot whose values are kept as they are is mergeable, given that two patches that fit a value
one by one fit it together. -/
theorem mergeable_of_keeps {rewrite : Rewrite} {test fit : Json → Prop}
    (kept : Keeps rewrite test fit) : (optional rewrite).Mergeable good := by
  apply mergeable_of_objects (stable_optional kept.stable)
  · intro given change written changes _ concurrent taken
    have merged := concurrent.given.mergeAt concurrent.change
    rw [(kept.passes_of_optional merged taken).2]
  · intro given changes changes' _ concurrent readable
    obtain ⟨written, taken⟩ := Option.isSome_iff_exists.mp readable
    obtain ⟨begins, -⟩ := kept.passes_of_optional concurrent.given taken
    have canonical := concurrent.given.getD
    have patch := concurrent.change _ rfl
    have patch' := concurrent.change' _ rfl
    have merged := Json.isCanonical_mergePatch _ canonical patch
    have merged' := Json.isCanonical_mergePatch _ canonical patch'
    rw [kept.isSome_optional merged patch', kept.isSome_optional canonical patch,
      kept.isSome_optional canonical patch']
    constructor
    · intro whole
      have fit' := kept.fits merged patch' whole
      rw [Json.mergePatch_comm (concurrent.compatible _ _ rfl rfl) canonical patch patch'] at whole
      have fit := kept.fits merged' patch whole
      exact ⟨kept.passes canonical patch begins fit, kept.passes canonical patch' begins fit'⟩
    · rintro ⟨first, second⟩
      exact kept.passes merged patch' (.inr first) (kept.fits canonical patch' second)

/-! ### Plain data -/

/-- A slot of plain data takes no objects, or keeps what it takes as it is. -/
inductive Plain : Slot → Prop where
  | rejects {slot : Slot} (stable : slot.Stable)
      (rejects : ∀ members, slot (some (.object members)) = none) : Plain slot
  | keeps {rewrite : Rewrite} {test fit : Json → Prop} (kept : Keeps rewrite test fit) :
      Plain (optional rewrite)

/-- A plain slot is mergeable: its value is taken as a whole or not at all, and two patches that fit a value one
by one replace it by the same one. -/
theorem Plain.mergeable (plain : slot.Plain) : slot.Mergeable good := by
  cases plain with
  | rejects stable rejects => exact mergeable_of_rejects stable rejects
  | keeps kept => exact mergeable_of_keeps kept

end Slot

/-! ### Records -/

/-- All slots of a record keep up with merging. -/
structure Record.Mergeable (good : Option Json → Prop) (record : Record) : Prop where
  nodup : (record.slots.map Prod.fst).Nodup
  slots : ∀ entry ∈ record.slots, entry.2.Mergeable good

/-- All slots of a record are of plain data. -/
structure Record.Plain (record : Record) : Prop where
  nodup : (record.slots.map Prod.fst).Nodup
  slots : ∀ entry ∈ record.slots, entry.2.Plain

namespace Record

variable {good : Option Json → Prop} {record : Record}

theorem Plain.mergeable (plain : record.Plain) : record.Mergeable good where
  nodup := plain.nodup
  slots entry mem := (plain.slots entry mem).mergeable

/-- A mergeable record is stable: this is the part of mergeability that speaks of no patch. -/
theorem Mergeable.stable (mergeable : record.Mergeable good) : record.Stable where
  nodup := mergeable.nodup
  slots entry mem := (mergeable.slots entry mem).stable

/-- An object patch is merged slot by slot. -/
theorem rewrite_mergePatch {target : Json} {changes : List (String × Json)}
    (canonical : target.IsCanonical) (canonical' : (Json.object changes).IsCanonical) :
    record.rewrite (mergePatch target (.object changes)) =
      (gather (fun name => mergeAt (target.find? name) (Keyed.find? name changes)) record.slots).map
        .object := by
  have same : ∀ name, (mergePatch target (.object changes)).find? name = _ :=
    Json.find?_mergePatch canonical canonical'
  rw [← funext same]
  rfl

variable {look change change' : String → Option Json}

/-- Changes of what the slots have written come to the same as changes of what was given. -/
theorem gather_after (mergeable : record.Mergeable good) (fine : ∀ name, good (look name))
    (concurrent : ∀ name, Concurrent (look name) (change name) (change' name))
    {members : List (String × Json)}
    (gathered : gather (fun name => mergeAt (look name) (change name)) record.slots = some members) :
    gather (fun name => mergeAt ((Json.object members).canonical.find? name) (change' name))
        record.slots =
      gather (fun name => mergeAt (mergeAt (look name) (change name)) (change' name)) record.slots := by
  have once := nodup_of_gather mergeable.nodup gathered
  apply gather_congr
  intro entry mem
  rw [Json.find?_canonical once]
  exact (mergeable.slots entry mem).after (fine _) (concurrent _)
    (find?_of_gather mergeable.nodup gathered mem)

/-- After two patches that change different members all slots are readable just if they are after either one
alone. Only then can the order of the patches not be told. -/
theorem isSome_gather_both (mergeable : record.Mergeable good) (fine : ∀ name, good (look name))
    (concurrent : ∀ name, Concurrent (look name) (change name) (change' name))
    (readable : (gather look record.slots).isSome = true) :
    (gather (fun name => mergeAt (mergeAt (look name) (change name)) (change' name))
        record.slots).isSome = true ↔
      (gather (fun name => mergeAt (look name) (change name)) record.slots).isSome = true ∧
      (gather (fun name => mergeAt (look name) (change' name)) record.slots).isSome = true := by
  rw [isSome_gather] at readable
  rw [isSome_gather, isSome_gather, isSome_gather, ← forall_and]
  apply forall_congr'
  intro entry
  rw [← forall_and]
  apply forall_congr'
  intro mem
  exact (mergeable.slots entry mem).both (fine _) (concurrent _) (readable entry mem)

/-- A patch may be merged into an object as it is, or into what has been written for it, if the object
was good before a compatible change. -/
theorem rewrite_after (mergeable : record.Mergeable good) (fine : ∀ name, good (look name))
    {members changes : List (String × Json)} (canonical : (Json.object members).IsCanonical)
    (canonical' : (Json.object changes).IsCanonical)
    (changed : ∀ name, (Json.object members).find? name = mergeAt (look name) (change name))
    (concurrent : ∀ name, Concurrent (look name) (change name) (Keyed.find? name changes))
    {written : Json} (rewritten : record.rewrite (.object members) = some written) :
    record.rewrite (mergePatch written.canonical (.object changes)) =
      record.rewrite (mergePatch (.object members) (.object changes)) := by
  obtain ⟨_, result, found, gathered, rfl⟩ := exists_of_rewrite rewritten
  cases found
  have same : (fun name => Keyed.find? name members) =
      fun name => mergeAt (look name) (change name) := funext changed
  rw [same] at gathered
  rw [rewrite_mergePatch (Json.isCanonical_canonical _) canonical', rewrite_mergePatch canonical canonical',
    gather_after mergeable fine concurrent gathered]
  simp only [changed]

/-- The same for the record as a whole: both patches leave an object of the kind just if each of them does,
provided they nowhere change the same member to different values. -/
theorem isSome_rewrite_both (mergeable : record.Mergeable good) {target : Json}
    (fine : ∀ name, good (target.find? name)) {changes changes' : List (String × Json)}
    (canonical : target.IsCanonical) (patch : (Json.object changes).IsCanonical)
    (patch' : (Json.object changes').IsCanonical)
    (compatible : Json.Compatible (.object changes) (.object changes'))
    (readable : (gather target.find? record.slots).isSome = true) :
    (record.rewrite (mergePatch (mergePatch target (.object changes)) (.object changes'))).isSome = true ↔
      (record.rewrite (mergePatch target (.object changes))).isSome = true ∧
      (record.rewrite (mergePatch target (.object changes'))).isSome = true := by
  have merged := Json.isCanonical_mergePatch _ canonical patch
  rw [rewrite_mergePatch merged patch', rewrite_mergePatch canonical patch,
    rewrite_mergePatch canonical patch', Option.isSome_map, Option.isSome_map, Option.isSome_map]
  simp only [Json.find?_mergePatch canonical patch]
  exact isSome_gather_both mergeable fine
    (Json.concurrent_members compatible canonical patch patch') readable

/-- What is given is no list. -/
def NotList (given : Option Json) : Prop :=
  ∀ items, given ≠ some (.array items)

variable {given : Option Json}

/-- What can be read as a record and is no list is an object. -/
theorem exists_members (fine : NotList given) {value written : Json} (there : given = some value)
    (rewritten : record.rewrite value = some written) : ∃ members, value = .object members := by
  cases value with
  | object members => exact ⟨members, rfl⟩
  | array items => exact absurd there (fine items)
  | null | bool | number | text => cases rewritten

/-- A patch may be merged into a record as it is after a compatible change, or into what has been
written for it. -/
theorem rewrite_after_change (mergeable : record.Mergeable fun _ => True) (fine : NotList given)
    {change : Option Json} {changes : List (String × Json)}
    (concurrent : Concurrent given change (some (.object changes))) {value written : Json}
    (merged : mergeAt given change = some value) (rewritten : record.rewrite value = some written) :
    record.rewrite (mergePatch written.canonical (.object changes)) =
      record.rewrite (mergePatch value (.object changes)) := by
  have patch := concurrent.change' _ rfl
  cases change with
  | none =>
    have canonical := concurrent.given value merged
    obtain ⟨members, rfl⟩ := exists_members fine merged rewritten
    have unchanged : ∀ name, (Json.object members).find? name =
        mergeAt ((Json.object members).find? name) none := fun _ => rfl
    have later : ∀ name, Concurrent ((Json.object members).find? name) none (Keyed.find? name changes) :=
      fun name => ⟨(fun _ _ none => nomatch none), canonical.findAt name, (fun _ none => nomatch none),
        patch.findAt name⟩
    exact rewrite_after mergeable (fun _ => trivial) canonical patch unchanged later rewritten
  | some first =>
    obtain ⟨changes', _, rfl, -⟩ := (concurrent.compatible _ _ rfl rfl).exists_object
    have canonical := concurrent.given.getD
    have patch' := concurrent.change _ rfl
    cases merged
    exact rewrite_after mergeable (fun _ => trivial)
      (Json.isCanonical_mergePatch _ canonical patch') patch
      (Json.find?_mergePatch canonical patch')
      (Json.concurrent_members (concurrent.compatible _ _ rfl rfl) canonical patch' patch) rewritten

end Record

namespace Slot

open Record (NotList)

variable {record : Record}

/-- A record that is mergeable under all circumstances may be required in another one, where its value is
known to be no list. -/
theorem mergeable_required (mergeable : record.Mergeable fun _ => True) :
    (required record.rewrite).Mergeable NotList := by
  apply mergeable_of_objects (stable_required mergeable.stable.rewrite)
  · intro given change written changes fine concurrent taken
    cases merged : mergeAt given change with
    | none =>
      rw [merged] at taken
      cases taken
    | some value =>
      rw [merged] at taken
      obtain ⟨w, rewritten, rfl⟩ := Option.map_eq_some_iff.mp taken
      exact congrArg (Option.map some)
        (Record.rewrite_after_change mergeable fine concurrent merged rewritten)
  · intro given changes changes' fine concurrent readable
    obtain ⟨written, taken⟩ := Option.isSome_iff_exists.mp readable
    cases given with
    | none => cases taken
    | some value =>
      obtain ⟨w, rewritten, rfl⟩ := Option.map_eq_some_iff.mp taken
      obtain ⟨members, rfl⟩ := Record.exists_members fine rfl rewritten
      obtain ⟨_, result, found, gathered, rfl⟩ := Record.exists_of_rewrite rewritten
      cases found
      simp only [required, Option.isSome_map, Option.getD_some]
      exact Record.isSome_rewrite_both mergeable (fun _ => trivial) (concurrent.given _ rfl)
        (concurrent.change _ rfl) (concurrent.change' _ rfl) (concurrent.compatible _ _ rfl rfl)
        (Option.isSome_of_eq_some gathered)

/-- For a record that may be missing, the slots have to do with nothing, too. -/
theorem mergeable_optional (mergeable : record.Mergeable fun _ => True)
    (empty : (gather (fun _ => none) record.slots).isSome = true) :
    (optional record.rewrite).Mergeable NotList := by
  have object : ∀ target changes, optional record.rewrite (some (mergePatch target (.object changes))) =
      (record.rewrite (mergePatch target (.object changes))).map some := fun _ _ => rfl
  apply mergeable_of_objects (stable_optional mergeable.stable.rewrite)
  · intro given change written changes fine concurrent taken
    rw [object, object]
    cases merged : mergeAt given change with
    | none =>
      rw [merged] at taken
      cases taken
      rfl
    | some value =>
      rw [merged, optional] at taken
      split at taken
      · rename_i null
        cases value with
        | null =>
          cases taken
          rfl
        | bool | number | text | array | object => cases null
      · obtain ⟨w, rewritten, rfl⟩ := Option.map_eq_some_iff.mp taken
        exact congrArg (Option.map some)
          (Record.rewrite_after_change mergeable fine concurrent merged rewritten)
  · intro given changes changes' fine concurrent readable
    have begins : (gather (given.getD .null).find? record.slots).isSome = true := by
      obtain ⟨written, taken⟩ := Option.isSome_iff_exists.mp readable
      cases given with
      | none => exact empty
      | some value =>
        rw [optional] at taken
        split at taken
        · rename_i null
          cases value with
          | null => exact empty
          | bool | number | text | array | object => cases null
        · obtain ⟨w, rewritten, rfl⟩ := Option.map_eq_some_iff.mp taken
          obtain ⟨members, rfl⟩ := Record.exists_members fine rfl rewritten
          obtain ⟨_, result, found, gathered, rfl⟩ := Record.exists_of_rewrite rewritten
          cases found
          exact Option.isSome_of_eq_some gathered
    rw [object, object, object, Option.isSome_map, Option.isSome_map, Option.isSome_map]
    exact Record.isSome_rewrite_both mergeable (fun _ => trivial) concurrent.given.getD
      (concurrent.change _ rfl) (concurrent.change' _ rfl) (concurrent.compatible _ _ rfl rfl) begins

end Slot

end VirtLifecycle
