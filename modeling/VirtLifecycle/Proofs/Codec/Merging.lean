/-
Module: VirtLifecycle.Proofs.Codec.Merging
Purpose: Described records keep up with merging. Texts, flags, numbers, timestamps and lists take no object,
  so a patch that is an object cannot be merged into them; free-form data and maps of texts are kept as they
  are. A record of such parts keeps up with patches, and patches leave of it what they do not touch.
Main exports: Json.exists_ofTexts, Slot.keeps_freeform, Slot.keeps_texts, Codec.Part.plain_slot,
  Codec.Parts.plain_record, Codec.Part.mergeable_required, Codec.Part.mergeable_optional,
  Codec.Part.frames_required, Codec.Part.frames_optional
-/
import VirtLifecycle.Proofs.Codec.Slots
import VirtLifecycle.Proofs.Rewrite.Untouched

namespace VirtLifecycle

open Document
open Json (mergeAt mergePatch)

/-! ### Maps of texts -/

namespace Json

/-- An object whose members are all texts is one that is written for a map. -/
theorem exists_ofTexts {members : Keyed Json} (ascending : Keyed.Ascending members)
    (texts : ∀ entry ∈ members, ∃ s, entry.2 = text s) : ∃ map, object members = ofTexts map := by
  suffices ∃ entries : Keyed String, members = entries.mapValues text by
    obtain ⟨entries, rfl⟩ := this
    rw [Keyed.Ascending, Keyed.mapValues, List.pairwise_map] at ascending
    exact ⟨⟨entries, ascending⟩, rfl⟩
  clear ascending
  induction members with
  | nil => exact ⟨[], rfl⟩
  | cons entry rest ih =>
    obtain ⟨key, value⟩ := entry
    obtain ⟨⟨s, rfl⟩, later⟩ := List.forall_mem_cons.mp texts
    obtain ⟨entries, rfl⟩ := ih later
    exact ⟨(key, s) :: entries, rfl⟩

/-- A value in canonical form that is read as a map is one that is written for a map. -/
theorem exists_of_texts? {value : Json} (canonical : value.IsCanonical) {map : TextMap}
    (read : texts? value = some map) : ∃ map, value = ofTexts map := by
  obtain ⟨given, found, later⟩ := Option.bind_eq_some_iff.mp read
  obtain ⟨entries, each, -⟩ := Option.bind_eq_some_iff.mp later
  cases value with
  | null | bool | number | text | array => cases found
  | object members =>
    obtain rfl : members = given := Option.some.inj ((members?_object members).symm.trans found)
    apply exists_ofTexts canonical.1
    clear read found later canonical
    induction members generalizing entries with
    | nil => exact List.forall_mem_nil _
    | cons entry rest ih =>
      simp only [List.mapM_cons, Option.bind_eq_bind, Option.bind_eq_some_iff, Option.pure_def,
        Option.some.injEq] at each
      obtain ⟨_, first, others, more, _⟩ := each
      obtain ⟨s, isText, _⟩ := Option.map_eq_some_iff.mp first
      refine List.forall_mem_cons.mpr ⟨?_, ih others more⟩
      cases value : entry.2 with
      | text s => exact ⟨s, rfl⟩
      | null | bool | number | array | object =>
        rw [value] at isText
        cases isText

/-- Only a text leaves a text. -/
theorem eq_text_of_mergePatch {target patch : Json} {s : String} (merged : mergePatch target patch = text s) :
    patch = text s := by
  cases patch with
  | text t => exact merged
  | null | bool | number | array | object => cases merged

/-- Under the keys of a map stand texts. -/
theorem find?_ofTexts {map : TextMap} {key : String} {value : Json}
    (found : (ofTexts map).find? key = some value) : ∃ s, value = text s := by
  rw [ofTexts, find?, Keyed.find?_mapValues] at found
  obtain ⟨s, -, rfl⟩ := Option.map_eq_some_iff.mp found
  exact ⟨s, rfl⟩

end Json

namespace Slot

/-- Free-form data with finite numbers is kept as it is. -/
theorem keeps_freeform : Keeps Codec.freeform.rewrite (fun value => value.isUsable = true)
    (fun patch => patch.isUsable = true) where
  keeps {value} canonical usable := by
    have read := Freeform.ofJson?_value ⟨value, canonical, usable⟩
    exact congrArg (Option.map Freeform.value) read
  rejects {value} _ unusable := by
    have unread : Freeform.ofJson? value = none := dif_neg unusable
    exact congrArg (Option.map Freeform.value) unread
  fits canonical canonical' usable := Json.isUsable_of_mergePatch _ canonical canonical' usable
  passes {target changes} _ _ begins usable := by
    apply Json.isUsable_mergePatch _ _ usable
    rcases begins with rfl | usable'
    · rfl
    · exact usable'

/-- Maps of texts are kept as they are. A patch of one has texts and nulls. -/
theorem keeps_texts : Keeps Codec.texts.rewrite (fun value => ∃ map, value = Json.ofTexts map)
    (fun patch => ∀ key change, patch.find? key = some change →
      change.isNull = true ∨ ∃ s, change = .text s) where
  keeps {value} canonical isMap := by
    obtain ⟨map, rfl⟩ := isMap
    exact congrArg (Option.map Json.ofTexts) (texts?_ofTexts map)
  rejects {value} canonical noMap := by
    have unread : texts? value = none := by
      cases read : texts? value with
      | none => rfl
      | some map => exact absurd (Json.exists_of_texts? canonical read) noMap
    exact congrArg (Option.map Json.ofTexts) unread
  fits {target changes} canonical canonical' isMap key change found := by
    obtain ⟨map, isMap⟩ := isMap
    cases shown : change.isNull with
    | true => exact .inl rfl
    | false =>
      have merged := Json.find?_mergePatch canonical canonical' key
      change Keyed.find? key changes = some change at found
      rw [found, Json.mergeAt_some shown, isMap] at merged
      obtain ⟨s, same⟩ := Json.find?_ofTexts merged
      exact .inr ⟨s, Json.eq_text_of_mergePatch same⟩
  passes {target changes} canonical canonical' begins fit := by
    have merged := Json.isCanonical_mergePatch (.object changes) canonical canonical'
    have before : ∀ key value, target.find? key = some value → ∃ s, value = .text s := by
      intro key value found
      rcases begins with rfl | ⟨map, rfl⟩
      · cases found
      · exact Json.find?_ofTexts found
    refine Json.exists_ofTexts merged.1 ?_
    rintro ⟨key, value⟩ mem
    have there : (mergePatch target (.object changes)).find? key = some value :=
      Keyed.find?_of_mem merged.1 mem
    rw [Json.find?_mergePatch canonical canonical'] at there
    cases found : Keyed.find? key changes with
    | none =>
      rw [found] at there
      exact before key value there
    | some change =>
      rw [found, mergeAt] at there
      split at there
      · cases there
      · rename_i shown
        cases there
        rcases fit key change found with null | ⟨s, rfl⟩
        · exact absurd null shown
        · exact ⟨s, rfl⟩

end Slot

/-! ### Plain parts -/

namespace Codec

open Record (NotList)

variable {β P ρ : Type} {names : List String}

/-- Whether values are read from objects. -/
def takesObjects : Codec β → Bool
  | freeform | texts | record .. => true
  | _ => false

/-- Whether a part takes no object, or keeps the objects that it takes as they are. -/
def Part.isPlain : Part β → Bool
  | required codec => !codec.takesObjects
  | optional (.record ..) => false
  | constant _ => false
  | _ => true

/-- Whether all parts of a record are plain. -/
def Parts.arePlain {names : List String} {P : Type} : Parts names P → Bool
  | .nil => true
  | .cons _ part rest _ => part.isPlain && rest.arePlain

/-- A codec for texts, numbers, truth values, timestamps or lists takes no object. So a patch that puts an
object in such a place is refused. -/
theorem read_object_eq_none (codec : Codec β) (leaf : codec.takesObjects = false)
    (members : List (String × Json)) : codec.read (Json.object members) = none := by
  cases codec with
  | freeform | texts | record => cases leaf
  | text | bool | int32 | int64 | timestamp | wholeTimestamp | listOf => rfl

/-- What is written for an optional value that takes no object. -/
theorem Part.plain_optional (codec : Codec β) (leaf : codec.takesObjects = false) :
    (optional codec).slot.Plain := by
  apply Slot.Plain.rejects (optional codec).stable_slot
  intro members
  rw [slot, readAt_optional, codec.read_object_eq_none leaf members]
  rfl

/-- Plain parts have plain slots. -/
theorem Part.plain_slot (part : Part β) (plain : part.isPlain = true) : part.slot.Plain := by
  cases part with
  | constant => cases plain
  | flag => exact .rejects flag.stable_slot fun _ => rfl
  | word => exact .rejects word.stable_slot fun _ => rfl
  | listed codec => exact .rejects (listed codec).stable_slot fun _ => rfl
  | required codec =>
    apply Slot.Plain.rejects (required codec).stable_slot
    intro members
    rw [slot, readAt_required, codec.read_object_eq_none (Bool.not_eq_true' _ ▸ plain) members]
    rfl
  | optional codec =>
    cases codec with
    | record => cases plain
    | freeform =>
      rw [slot_optional]
      exact .keeps Slot.keeps_freeform
    | texts =>
      rw [slot_optional]
      exact .keeps Slot.keeps_texts
    | text | bool | int32 | int64 | timestamp | wholeTimestamp | listOf => exact plain_optional _ rfl

theorem Parts.plain_slots : {names : List String} → {P : Type} → (parts : Parts names P) →
    parts.arePlain = true → ∀ entry ∈ parts.slots, entry.2.Plain
  | _, _, .nil, _ => List.forall_mem_nil _
  | _, _, .cons _ part rest _, plain => by
    obtain ⟨first, others⟩ := Bool.and_eq_true_iff.mp plain
    exact List.forall_mem_cons.mpr ⟨part.plain_slot first, rest.plain_slots others⟩

/-- A record of plain parts is plain. -/
theorem Parts.plain_record (form : Form) (parts : Parts names P) (plain : parts.arePlain = true) :
    (parts.record form).Plain where
  nodup := by
    rw [record, parts.map_fst_slots]
    exact parts.nodup_names
  slots := parts.plain_slots plain

/-! ### Parts that are records -/

variable (form : Form) (parts : Parts names P) (shape : Shape ρ P) (plain : parts.arePlain = true)
include plain

/-- A part that is a record of plain parts keeps up with merging. -/
theorem Part.mergeable_required : (required (.record form parts shape)).slot.Mergeable NotList := by
  rw [slot_required]
  apply (Slot.mergeable_required (parts.plain_record form plain).mergeable).congr
  intro given canonical
  cases given with
  | none => rfl
  | some value => rw [Slot.required, rewrite_record form parts shape (canonical value rfl), Slot.required]

/-- So does one that may be missing, if the record may be empty. -/
theorem Part.mergeable_optional (empty : (parts.read (Fields.mk ([] : List (String × Json)))).isSome = true) :
    (optional (.record form parts shape)).slot.Mergeable NotList := by
  have nothing : (gather (fun _ => none) (parts.record form).slots).isSome = true := by
    have gathered : (parts.read (Fields.mk [])).map parts.write = gather (fun _ => none) parts.slots :=
      parts.map_write_read fun _ => rfl
    rw [Parts.record, ← gathered, Option.isSome_map]
    exact empty
  rw [slot_optional]
  apply (Slot.mergeable_optional (parts.plain_record form plain).mergeable nothing).congr
  intro given canonical
  cases given with
  | none => rfl
  | some value => rw [Slot.optional, rewrite_record form parts shape (canonical value rfl), Slot.optional]

/-- Patches of a record of plain parts leave what they do not touch. -/
theorem frames_record : (record form parts shape).rewrite.Frames :=
  (parts.plain_record form plain).frames.congr (rewrite_record form parts shape)

end Codec

end VirtLifecycle
