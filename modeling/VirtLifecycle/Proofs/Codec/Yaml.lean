/-
Module: VirtLifecycle.Proofs.Codec.Yaml
Purpose: Described records are read from YAML as they are from JSON, as long as none of them is written as
  the list of its fields, a form that YAML does not have. Both the law and the condition are stated once, by
  recursion over descriptions. Whatever is written keeps the condition.
Main exports: Codec.ByName, Codec.carried, Codec.byName_write
-/
import VirtLifecycle.Proofs.Codec.ReadsBack
import VirtLifecycle.Proofs.Yaml.OfJson

namespace VirtLifecycle.Codec

open Document
open Yaml (Node)

mutual

/-- No record in the value is written as the list of its fields. Records that are never read from lists may
be; then they are not read at all. -/
def ByName {β : Type} : Codec β → Json → Prop
  | .listOf items, value => ∀ item ∈ value.itemsOrNone, items.ByName item
  | .record .members parts _, value => parts.ByName value
  | .record _ parts _, value => value.isArray = false ∧ parts.ByName value
  | _, _ => True

def Part.ByName {β : Type} : Part β → Json → Prop
  | .required codec, given => codec.ByName given
  | .optional codec, given => codec.ByName given
  | .listed codec, given => ∀ item ∈ given.itemsOrNone, codec.ByName item
  | _, _ => True

def Parts.ByName {names : List String} {P : Type} : Parts names P → Json → Prop
  | .nil, _ => True
  | .cons name part rest _, value => (∀ given ∈ value.under name, part.ByName given) ∧ rest.ByName value

end

variable {β P : Type} {names : List String} {value : Json}

/-! ### Reading -/

/-- A record that is no list in either format is carried over if what is made of its fields is. -/
theorem Form.kept_fields? (form : Form) (fieldNames : List String)
    (listless : form = .members ∨ value.isArray = false) {next : Fields Json → Option β}
    {next' : Fields Node → Option β} (rest : ∀ f : Fields Json, (∀ name, f.all name = value.under name) →
      Kept (next f) (next' f.inYaml)) :
    Kept (form.fields? fieldNames value >>= next) (form.fields? fieldNames (Node.ofJson value) >>= next') := by
  cases form with
  | members => exact .ofMembers? rest
  | positional =>
    obtain ⟨⟨⟩⟩ | listless := listless
    exact .ofRecord? listless rest
  | complete =>
    obtain ⟨⟨⟩⟩ | listless := listless
    have whole : ∀ {α : Type} [Document α] (value : α), (∀ items, layer value ≠ .list items) →
        complete.fields? fieldNames value = Fields.ofRecord? fieldNames value := by
      intro α _ value listless
      rw [fields?]
      split <;> simp_all
    rw [whole value (Json.layer_ne_list listless),
      whole (Node.ofJson value) (Node.layer_ofJson_ne_list listless)]
    exact .ofRecord? listless rest

/-- A record that is given by names is no list, unless its form takes no lists anyway, and neither are the
records in it. -/
theorem listless_of_byName {ρ : Type} {form : Form} {parts : Parts names P} {shape : Shape ρ P}
    (byName : (record form parts shape).ByName value) :
    (form = .members ∨ value.isArray = false) ∧ parts.ByName value := by
  cases form with
  | members => exact ⟨.inl rfl, byName⟩
  | positional | complete => exact ⟨.inr byName.1, byName.2⟩

mutual

/-- **What a description takes from JSON it takes from YAML.** -/
theorem carried : {β : Type} → (codec : Codec β) → {value : Json} → codec.ByName value →
    Carried codec.read value
  | _, .text, value, _ => .text value
  | _, .bool, value, _ => .bool value
  | _, .int32, value, _ => .int32 value
  | _, .int64, value, _ => .int64 value
  | _, .timestamp, value, _ => .timestamp value
  | _, .wholeTimestamp, value, _ => .timestamp value
  | _, .freeform, value, _ => .freeform value
  | _, .texts, value, _ => .texts value
  | _, .listOf items, _, byName => .listOf fun item mem => items.carried (byName item mem)
  | _, .record form parts shape, _, byName => by
    obtain ⟨listless, byName⟩ := listless_of_byName byName
    exact form.kept_fields? parts.fieldNames listless fun f all =>
      (parts.kept_read all byName).map shape.make

/-- A part is read from a document as from JSON if what is given for it is given by names. -/
theorem Part.kept_read : {β : Type} → (part : Part β) → {f : Fields Json} → {name : String} →
    (∀ given ∈ f.all name, part.ByName given) → Kept (part.read f name) (part.read f.inYaml name)
  | _, .required codec, _, _, byName =>
    Fields.required?_inYaml fun given mem => codec.carried (byName given mem)
  | _, .optional codec, _, _, byName =>
    Fields.optional?_inYaml fun given mem => codec.carried (byName given mem)
  | _, .listed codec, _, _, byName =>
    Fields.orDefault?_inYaml [] fun given mem =>
      Carried.listOf fun item listed => codec.carried (byName given mem item listed)
  | _, .flag, _, _, _ => Fields.orDefault?_inYaml false fun given _ => .bool given
  | _, .word, _, _, _ => Fields.absentOr?_inYaml "" fun given _ => .text given
  | _, .constant _, _, _, _ => .refl _

/-- The parts of a record are read from a document as from JSON if what is given for them is given by names.
-/
theorem Parts.kept_read : {names : List String} → {P : Type} → (parts : Parts names P) → {f : Fields Json} →
    {value : Json} → (∀ name, f.all name = value.under name) → parts.ByName value →
    Kept (parts.read f) (parts.read f.inYaml)
  | _, _, .nil, _, _, _, _ => .refl _
  | _, _, .cons name part rest _, f, value, all, byName => by
    have here : ∀ given ∈ f.all name, part.ByName given := all name ▸ byName.1
    refine (part.kept_read here).bind fun first => ?_
    exact (rest.kept_read all byName.2).bind fun others => .refl _

end

/-! ### Writing -/

mutual

/-- **What is written is written by name.** -/
theorem byName_write : {β : Type} → (codec : Codec β) → (b : β) → codec.ByName (codec.write b)
  | _, .text, _ | _, .bool, _ | _, .int32, _ | _, .int64, _ | _, .timestamp, _ | _, .wholeTimestamp, _
  | _, .freeform, _ | _, .texts, _ => trivial
  | _, .listOf items, values => by
    intro item mem
    obtain ⟨b, -, rfl⟩ := List.mem_map.mp mem
    exact items.byName_write b
  | _, .record form parts shape, r => by
    have byName : parts.ByName ((record form parts shape).write r) :=
      parts.byName_of_all (shape.take r) fun _ _ => rfl
    cases form with
    | members => exact byName
    | positional | complete => exact ⟨rfl, byName⟩

theorem Part.byName_write : {β : Type} → (part : Part β) → (b : β) →
    ∀ given ∈ part.write b, part.ByName given
  | _, .required codec, b, _, mem => by
    cases mem
    exact codec.byName_write b
  | _, .optional codec, some b, _, mem => by
    cases mem
    exact codec.byName_write b
  | _, .listed codec, first :: rest, _, mem => by
    cases mem
    intro item listed
    obtain ⟨b, -, rfl⟩ := List.mem_map.mp listed
    exact codec.byName_write b
  | _, .flag, _, _, _ | _, .word, _, _, _ | _, .constant _, _, _, _ => trivial

/-- What the parts of a record write is given by names, in whatever order the members stand. -/
theorem Parts.byName_of_all : {names : List String} → {P : Type} → (parts : Parts names P) → (p : P) →
    {value : Json} → (∀ name ∈ names, value.under name = (Fields.mk (parts.write p)).all name) →
    parts.ByName value
  | _, _, .nil, _, _, _ => trivial
  | _ :: names, _, .cons name part rest new, p, value, all => by
    constructor
    · intro given mem
      rw [all name List.mem_cons_self, Parts.all_write_cons, Option.mem_toList] at mem
      exact part.byName_write p.1 given mem
    · refine rest.byName_of_all p.2 fun other later => ?_
      rw [all other (List.mem_cons_of_mem _ later), Parts.all_write_rest name part rest new p later]

end

end VirtLifecycle.Codec
