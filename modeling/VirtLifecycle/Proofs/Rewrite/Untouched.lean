/-
Module: VirtLifecycle.Proofs.Rewrite.Untouched
Purpose: What patches do not touch stays, although values are read and written again after the merge. That
  needs a value that is written as it is, as one that has been read and written before; then what is at
  paths that the patch does not touch is written again. Stated for slots, and derived for records.
Main exports: Rewrite.Fixes, Slot.Fixes, Rewrite.Frames, Slot.Frames, Slot.Plain.frames, Record.frames,
  Slot.frames_required, Slot.frames_optional
-/
import VirtLifecycle.Proofs.Rewrite.Merging

namespace VirtLifecycle

open Json (mergeAt mergePatch Untouched at?)

/-- The value is written as it is. -/
def Rewrite.Fixes (rewrite : Rewrite) (value : Json) : Prop :=
  (rewrite value).map Json.canonical = some value

/-- A slot writes the value as it is. -/
def Slot.Fixes (slot : Slot) (value : Json) : Prop :=
  (slot (some value)).map (Option.map Json.canonical) = some (some value)

/-- Patches of what is written as it is leave what is at paths that they do not touch. -/
structure Rewrite.Frames (rewrite : Rewrite) : Prop where
  leaves : ∀ {value written member : Json} {changes : List (String × Json)} {path : List String},
    value.IsCanonical → (Json.object changes).IsCanonical → rewrite.Fixes value →
    Untouched (.object changes) path → rewrite (mergePatch value (.object changes)) = some written →
    at? path value = some member → at? path written.canonical = some member

/-- The same of a slot. -/
structure Slot.Frames (slot : Slot) : Prop where
  leaves : ∀ {value member : Json} {written : Option Json} {changes : List (String × Json)}
      {path : List String},
    value.IsCanonical → (Json.object changes).IsCanonical → slot.Fixes value →
    Untouched (.object changes) path → slot (some (mergePatch value (.object changes))) = some written →
    at? path value = some member → (written.map Json.canonical).bind (at? path) = some member

/-- Two rewritings that agree on canonical values leave the same paths untouched. -/
theorem Rewrite.Frames.congr {rewrite other : Rewrite} (frames : rewrite.Frames)
    (same : ∀ {value : Json}, value.IsCanonical → other value = rewrite value) : other.Frames where
  leaves {value written member changes path} canonical canonical' fixed untouched taken there := by
    rw [same (Json.isCanonical_mergePatch _ canonical canonical')] at taken
    rw [Fixes, same canonical] at fixed
    exact frames.leaves canonical canonical' fixed untouched taken there

namespace Slot

variable {slot : Slot} {rewrite : Rewrite}

theorem frames_required (frames : rewrite.Frames) : (required rewrite).Frames where
  leaves {value member written changes path} canonical canonical' fixed untouched taken there := by
    obtain ⟨w, rewritten, rfl⟩ := Option.map_eq_some_iff.mp taken
    have fixes : rewrite.Fixes value := by
      rw [Fixes, required, Option.map_map] at fixed
      obtain ⟨same, writes, kept⟩ := Option.map_eq_some_iff.mp fixed
      rw [Rewrite.Fixes, writes, Option.map_some, ← Option.some.inj kept]
    exact frames.leaves canonical canonical' fixes untouched rewritten there

/-- An optional slot leaves untouched what its rewriting does; where it writes nothing there is no path to
leave. -/
theorem frames_optional (frames : rewrite.Frames) : (optional rewrite).Frames where
  leaves {value member written changes path} canonical canonical' fixed untouched taken there := by
    have merged : optional rewrite (some (mergePatch value (.object changes))) =
        required rewrite (some (mergePatch value (.object changes))) := rfl
    rw [merged] at taken
    rw [Fixes, optional] at fixed
    cases null : value.isNull with
    | true =>
      rw [null] at fixed
      cases fixed
    | false =>
      rw [null] at fixed
      exact (frames_required frames).leaves canonical canonical' fixed untouched taken there

theorem frames_constant (value : Json) : (constant value).Frames where
  leaves {given member written changes path} _ _ fixed _ taken there := by
    cases taken
    have same : value.canonical = given := Option.some.inj (Option.some.inj fixed)
    rw [Option.map_some, same]
    exact there

/-- Free-form data and the like is merged as it is. -/
theorem Keeps.frames {test fit : Json → Prop} (kept : Keeps rewrite test fit) : rewrite.Frames where
  leaves {value written member changes path} canonical canonical' _ untouched taken there := by
    have merged := Json.isCanonical_mergePatch (.object changes) canonical canonical'
    obtain ⟨-, rfl⟩ := kept.eq_self merged taken
    rw [Json.canonical_of_isCanonical merged, Json.at?_mergePatch untouched canonical canonical']
    exact there

/-- A slot of plain data takes no change that is an object, or is changed as free-form data is. -/
theorem Plain.frames (plain : slot.Plain) : slot.Frames := by
  cases plain with
  | rejects stable rejects =>
    constructor
    intro value member written changes path _ _ _ _ taken _
    rw [mergePatch, rejects] at taken
    cases taken
  | keeps kept => exact frames_optional kept.frames

end Slot

section Record

variable {record : Record} {members members' changes : List (String × Json)}

/-- What a record is written as has only names of slots, each with what its slot writes. -/
theorem exists_slot_of_find? {look : String → Option Json} (gathered : gather look record.slots = some members)
    {key : String} {value : Json} (there : Keyed.find? key members = some value) :
    ∃ slot, (key, slot) ∈ record.slots := by
  obtain ⟨⟨name, slot⟩, mem, rfl⟩ := List.mem_map.mp (mem_of_gather gathered _ (Keyed.mem_of_find? there))
  exact ⟨slot, mem⟩

/-- Patches of a record leave what they do not touch if the slots do. -/
theorem Record.frames (nodup : (record.slots.map Prod.fst).Nodup)
    (slots : ∀ entry ∈ record.slots, entry.2.Frames) : record.rewrite.Frames := by
  constructor
  intro value written member changes path canonical canonical' fixed untouched taken there
  obtain ⟨_, writes, rfl⟩ := Option.map_eq_some_iff.mp fixed
  obtain ⟨look, members, found, gathered, rfl⟩ := exists_of_rewrite writes
  cases found
  rw [rewrite_mergePatch canonical canonical'] at taken
  obtain ⟨members', gathered', rfl⟩ := Option.map_eq_some_iff.mp taken
  have before := Json.find?_canonical (nodup_of_gather nodup gathered)
  have after := Json.find?_canonical (nodup_of_gather nodup gathered')
  cases path with
  | nil => cases untouched
  | cons key rest =>
    obtain ⟨given, has, deeper⟩ := Option.bind_eq_some_iff.mp there
    obtain ⟨first, shown, same⟩ := Option.map_eq_some_iff.mp ((before key).symm.trans has)
    obtain ⟨slot, mem⟩ := exists_slot_of_find? gathered shown
    -- what the slot writes for what is given, and for what the patch leaves of it
    have writes : slot (some given) = some (some first) := by
      rw [← has, ← shown]
      exact find?_of_gather nodup gathered mem
    have writes' : slot (mergeAt (some given) (Keyed.find? key changes)) =
        some (Keyed.find? key members') := by
      rw [← has]
      exact find?_of_gather nodup gathered' mem
    rw [at?, after]
    cases untouched with
    | lacks missing =>
      rw [missing, Json.mergeAt_none, writes] at writes'
      rw [← Option.some.inj writes', Option.map_some, Option.bind_some, same]
      exact deeper
    | @within _ _ _ change found untouched =>
      obtain ⟨changes', rfl⟩ := untouched.exists_object
      rw [found, Json.mergeAt_some rfl, Option.getD_some] at writes'
      have fixes : slot.Fixes given := by
        rw [Slot.Fixes, writes, Option.map_some, Option.map_some, same]
      exact (slots _ mem).leaves (canonical.find? has) (canonical'.find? found) fixes untouched writes' deeper

/-- A record of plain slots leaves every path untouched that its patch does not mention: each slot leaves
its own value, and no slot reads another one's. -/
theorem Record.Plain.frames (plain : record.Plain) : record.rewrite.Frames :=
  Record.frames plain.nodup fun entry mem => (plain.slots entry mem).frames

end Record

end VirtLifecycle
