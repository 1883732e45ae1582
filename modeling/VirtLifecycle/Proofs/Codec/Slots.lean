/-
Module: VirtLifecycle.Proofs.Codec.Slots
Purpose: The slots of described records. To read a record and write it again is to rewrite it slot by slot,
  each by the part that stands there; this is proved once, for all descriptions. So is it that what has been
  written once stays as it is, which follows from the laws on reading back.
Main exports: Codec.rewrite, Codec.Part.slot, Codec.Parts.slots, Codec.Parts.record, Codec.toRecord,
  Codec.Form.shows_fields?, Codec.rewrite_record, Codec.Part.stable_slot, Codec.exists_slot_of_rewrite
-/
import VirtLifecycle.Proofs.Codec.ReadsBack
import VirtLifecycle.Proofs.Rewrite.Slots

namespace VirtLifecycle

open Document

/-! ### What is given for a field -/

namespace Fields

/-- The fields of a record show at most one value under each name, and which. -/
inductive Shows : Option (Fields Json) → Option (String → Option Json) → Prop where
  | none : Shows .none .none
  | some {f : Fields Json} {look : String → Option Json}
      (all : ∀ name, f.all name = (look name).toList) : Shows (.some f) (.some look)

theorem shows_members {members : List (String × Json)} (nodup : (members.map Prod.fst).Nodup) :
    Shows (.some ⟨members⟩) (.some fun name => Keyed.find? name members) :=
  .some (all_eq_toList nodup)

/-- Items that are given in place of fields stand under different names. -/
theorem nodup_zip {names : List String} (nodup : names.Nodup) (items : List Json) :
    ((names.zip items).map Prod.fst).Nodup := by
  induction names generalizing items with
  | nil => exact List.nodup_nil
  | cons name rest ih =>
    obtain ⟨new, nodup⟩ := List.nodup_cons.mp nodup
    cases items with
    | nil => exact List.nodup_nil
    | cons item others =>
      refine List.nodup_cons.mpr ⟨fun mem => ?_, ih nodup others⟩
      obtain ⟨entry, mem, same⟩ := List.mem_map.mp mem
      have named : entry.1 = name := same
      exact new (named ▸ (List.of_mem_zip mem).1)

end Fields

namespace Codec

variable {β P : Type} {names fieldNames : List String} {value : Json}

/-- How many items a record in this form may have if it is given as a list. -/
def Form.takes (form : Form) (fields items : Nat) : Bool :=
  match form with
  | members => false
  | positional => items ≤ fields
  | complete => items == fields

/-- A list in place of fields is accepted or refused by its length. -/
theorem Form.fields?_array (form : Form) (fieldNames : List String) (items : List Json) :
    form.fields? fieldNames (Json.array items) =
      if form.takes fieldNames.length items.length then some ⟨fieldNames.zip items⟩ else none := by
  have few : Fields.ofRecord? fieldNames (Json.array items) =
      if items.length ≤ fieldNames.length then some ⟨fieldNames.zip items⟩ else none := by
    rw [Fields.ofRecord?]
    simp only [layer, Document.positional, true_and]
  cases form with
  | members => rfl
  | positional =>
    simp only [fields?, takes, few]
    split <;> simp_all
  | complete =>
    simp only [fields?, takes, few, layer]
    split <;> simp_all

/-- The fields of a record in one of its forms are what is to be looked up in it. -/
theorem Form.shows_fields? (form : Form) (nodup : fieldNames.Nodup) (canonical : value.IsCanonical)
    {slots : List (String × Slot)} : Fields.Shows (form.fields? fieldNames value)
      (Record.look? ⟨slots, fieldNames, form.takes fieldNames.length⟩ value) := by
  cases value with
  | null | bool | number | text => cases form <;> exact .none
  | object members =>
    have once := Keyed.nodup_of_ascending canonical.1
    have few : ∀ name, ((Fields.mk members).all name).length ≤ 1 := by
      intro name
      rw [Fields.all_eq_toList once]
      exact Option.length_toList_le
    rw [form.fields?_object _ few]
    exact Fields.shows_members once
  | array items =>
    rw [form.fields?_array, Record.look?]
    by_cases taken : form.takes fieldNames.length items.length = true
    · simp only [taken, if_true]
      exact Fields.shows_members (Fields.nodup_zip nodup items)
    · simp only [taken]
      exact .none

/-! ### Slots -/

/-- Reads a value and writes what has been read. -/
def rewrite (codec : Codec β) : Rewrite :=
  .of codec.read codec.write

/-- What is written for a part, for what is given under its name. -/
def Part.slot (part : Part β) : Slot := fun given =>
  (part.readAt given).map part.write

/-- The slots of a record, one for each part. -/
def Parts.slots {names : List String} {P : Type} : Parts names P → List (String × Slot)
  | .nil => []
  | .cons name part rest _ => (name, part.slot) :: rest.slots

theorem Parts.map_fst_slots : {names : List String} → {P : Type} → (parts : Parts names P) →
    parts.slots.map Prod.fst = names
  | _, _, .nil => rfl
  | _, _, .cons name _ rest _ => congrArg (name :: ·) rest.map_fst_slots

/-- The parts of a record have different names, which is checked where they are put together. -/
theorem Parts.nodup_names : {names : List String} → {P : Type} → Parts names P → names.Nodup
  | _, _, .nil => List.nodup_nil
  | _, _, .cons _ _ rest new => List.nodup_cons.mpr ⟨new, rest.nodup_names⟩

theorem Part.slot_required (codec : Codec β) : (required codec).slot = Slot.required codec.rewrite := by
  funext given
  cases given with
  | none => rfl
  | some value =>
    rw [slot, readAt_required, Slot.required, rewrite, Rewrite.of, Option.map_map]
    rfl

theorem Part.slot_optional (codec : Codec β) : (optional codec).slot = Slot.optional codec.rewrite := by
  funext given
  cases given with
  | none => rfl
  | some value =>
    rw [slot, readAt_optional, Slot.optional, rewrite, Rewrite.of]
    cases value.isNull with
    | true => rfl
    | false => cases codec.read value <;> rfl

/-- What has been written for a part stays as it is. -/
theorem Part.stable_slot (part : Part β) : part.slot.Stable := by
  intro given written _ rewritten
  obtain ⟨b, taken, rfl⟩ := Option.map_eq_some_iff.mp rewritten
  have full := part.full_of_read taken
  rw [slot, part.read_write .canonical, Option.map_some, part.write_reread full]

/-! ### Records -/

/-- How a described record is rewritten. -/
def Parts.record (form : Form) (parts : Parts names P) : Record :=
  ⟨parts.slots, parts.fieldNames, form.takes parts.fieldNames.length⟩

/-- How a value is rewritten, if it is a record. -/
def toRecord : Codec β → Record
  | .record form parts _ => parts.record form
  | _ => { slots := [] }

/-- To read the parts of a record and write them again is to gather their slots. -/
theorem Parts.map_write_read : {names : List String} → {P : Type} → (parts : Parts names P) →
    {f : Fields Json} → {look : String → Option Json} → (∀ name, f.all name = (look name).toList) →
    (parts.read f).map parts.write = gather look parts.slots
  | _, _, .nil, _, _, _ => rfl
  | _, _, .cons name part rest _, f, look, all => by
    have later := rest.map_write_read all
    rw [Parts.read, Parts.slots, gather, part.read_eq (all name), Part.slot, ← later]
    cases part.readAt (look name) with
    | none => rfl
    | some first => cases rest.read f <;> rfl

/-- To read a record and write it again is to rewrite it slot by slot. -/
theorem rewrite_record {ρ : Type} (form : Form) (parts : Parts names P) (shape : Shape ρ P)
    (canonical : value.IsCanonical) :
    (record form parts shape).rewrite value = (parts.record form).rewrite value := by
  have nodup := parts.fieldNames_subset.nodup parts.nodup_names
  have shows : Fields.Shows (form.fields? parts.fieldNames value) ((parts.record form).look? value) :=
    form.shows_fields? nodup canonical
  rw [rewrite, Rewrite.of, read, Record.rewrite]
  generalize form.fields? parts.fieldNames value = fields, (parts.record form).look? value = found at shows
  cases shows with
  | none => rfl
  | @some f look all =>
    rw [Option.bind_eq_bind, Option.bind_some, Option.bind_some]
    have same : (parts.record form).slots = parts.slots := rfl
    rw [same, ← parts.map_write_read all]
    cases parts.read f with
    | none => rfl
    | some p => simp only [Option.map_some, write, shape.take_make]

/-- Under the name of a part is written what its slot makes of what is given there. -/
theorem exists_slot_of_rewrite {ρ : Type} {form : Form} {parts : Parts names P} {shape : Shape ρ P}
    {members : List (String × Json)} {written : Json} (canonical : (Json.object members).IsCanonical)
    (rewritten : (record form parts shape).rewrite (.object members) = some written)
    {entry : String × Slot} (mem : entry ∈ parts.slots) :
    ∃ value, entry.2 ((Json.object members).find? entry.1) = some value ∧
      written.canonical.find? entry.1 = value.map Json.canonical := by
  rw [rewrite_record form parts shape canonical] at rewritten
  obtain ⟨look, others, found, gathered, rfl⟩ := Record.exists_of_rewrite rewritten
  cases found
  have nodup : ((parts.record form).slots.map Prod.fst).Nodup := by
    rw [Parts.record, parts.map_fst_slots]
    exact parts.nodup_names
  exact ⟨_, find?_of_gather nodup gathered mem, Json.find?_canonical (nodup_of_gather nodup gathered) _⟩

end Codec

end VirtLifecycle
