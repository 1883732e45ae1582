/-
Module: VirtLifecycle.Codec
Purpose: How the records of resources are read from documents and written as JSON. A record is described
  by its parts, each of them a name and what stands under it; what it means to read and to write a record
  is said once, for all descriptions.
Specification: [SPEC 10 Serialization] (`kubevirt-crds`): the serialized forms of the records of the
  four kinds, with `default` and `skip_serializing_if` on their fields.
Main exports: Codec, Codec.Part, Codec.Parts, Codec.Shape, Codec.Form, Codec.read, Codec.write
-/
import VirtLifecycle.Document
import VirtLifecycle.Time.Timestamp

namespace VirtLifecycle

open Document

/-- A timestamp in a document. -/
def Document.timestamp? {α : Type} [Document α] (value : α) : Option Timestamp :=
  (text? value).bind Timestamp.ofText?

namespace Codec

/-- A record is made of its parts, and they of it. -/
structure Shape (ρ P : Type) where
  take : ρ → P
  make : P → ρ
  make_take : ∀ r, make (take r) = r
  take_make : ∀ p, take (make p) = p

/-- In which forms a record may be given. -/
inductive Form where
  /-- an object; of a field given twice the last value counts -/
  | members
  /-- an object that gives no field twice or, where the format allows it, the list of the fields, of
  which the last ones may be left out -/
  | positional
  /-- the same, but a list has all fields -/
  | complete
deriving DecidableEq, Repr

/-- The fields that are given for a record in this form. -/
def Form.fields? {α : Type} [Document α] (form : Form) (names : List String) (value : α) :
    Option (Fields α) :=
  match form with
  | members => Fields.ofMembers? value
  | positional => Fields.ofRecord? names value
  | complete =>
    let complete := match layer value with
      | .list items => items.length == names.length
      | _ => true
    if complete then Fields.ofRecord? names value else none

end Codec

mutual

/-- How values of a type are read and written. -/
inductive Codec : Type → Type 1 where
  | text : Codec String
  | bool : Codec Bool
  | int32 : Codec Int32
  | int64 : Codec Int64
  /-- written with as many decimals as it takes -/
  | timestamp : Codec Timestamp
  /-- written in whole seconds -/
  | wholeTimestamp : Codec Timestamp
  | freeform : Codec Freeform
  | texts : Codec TextMap
  | listOf {β : Type} (items : Codec β) : Codec (List β)
  | record {ρ P : Type} {names : List String} (form : Codec.Form) (parts : Codec.Parts names P)
      (shape : Codec.Shape ρ P) : Codec ρ

/-- What stands under a name of a record. -/
inductive Codec.Part : Type → Type 1 where
  /-- it has to be there -/
  | required {β : Type} (codec : Codec β) : Codec.Part β
  /-- it may be missing or null, and is left out if there is nothing -/
  | optional {β : Type} (codec : Codec β) : Codec.Part (Option β)
  /-- down if it is missing; it cannot be null, and is written in any case -/
  | flag : Codec.Part Bool
  /-- empty if it is missing or null, and written in any case -/
  | word : Codec.Part String
  /-- empty if it is missing, and left out if it is empty; it cannot be null -/
  | listed {β : Type} (codec : Codec β) : Codec.Part (List β)
  /-- not read, and written in any case -/
  | constant (value : String) : Codec.Part Unit

/-- The parts of a record, under different names. -/
inductive Codec.Parts : List String → Type → Type 1 where
  | nil : Codec.Parts [] Unit
  | cons {β P : Type} {names : List String} (name : String) (part : Codec.Part β)
      (rest : Codec.Parts names P) (new : name ∉ names := by decide) : Codec.Parts (name :: names) (β × P)

end

namespace Codec

/-- Whether a part is read from a field. -/
def Part.isField {β : Type} : Part β → Bool
  | .constant _ => false
  | _ => true

/-- The names of the fields that a record is read from, in order. -/
def Parts.fieldNames {names : List String} {P : Type} : Parts names P → List String
  | .nil => []
  | .cons name part rest _ => if part.isField then name :: rest.fieldNames else rest.fieldNames

mutual

/-- Reads a value. -/
def read {β α : Type} [Document α] : Codec β → α → Option β
  | .text, value => text? value
  | .bool, value => bool? value
  | .int32, value => int32? value
  | .int64, value => int64? value
  | .timestamp, value => timestamp? value
  | .wholeTimestamp, value => timestamp? value
  | .freeform, value => freeform? value
  | .texts, value => texts? value
  | .listOf items, value => listOf? items.read value
  | .record form parts shape, value => do
    let f ← form.fields? parts.fieldNames value
    (parts.read f).map shape.make

/-- Reads a part from the fields of its record. -/
def Part.read {β α : Type} [Document α] : Part β → Fields α → String → Option β
  | .required codec, f, name => f.required? name codec.read
  | .optional codec, f, name => f.optional? name codec.read
  | .flag, f, name => f.orDefault? name false bool?
  | .word, f, name => f.absentOr? name "" text?
  | .listed codec, f, name => f.orDefault? name [] (listOf? codec.read)
  | .constant _, _, _ => some ()

/-- Reads the parts of a record from its fields. -/
def Parts.read {names : List String} {P α : Type} [Document α] : Parts names P → Fields α → Option P
  | .nil, _ => some ()
  | .cons name part rest _, f => do
    let first ← part.read f name
    let others ← rest.read f
    some (first, others)

end

mutual

/-- Writes a value. -/
def write {β : Type} : Codec β → β → Json
  | .text, s => .text s
  | .bool, b => .bool b
  | .int32, n => .ofInt32 n
  | .int64, n => .ofInt64 n
  | .timestamp, t => .text t.text
  | .wholeTimestamp, t => .text t.wholeText
  | .freeform, data => data.value
  | .texts, map => .ofTexts map
  | .listOf items, values => .array (values.map items.write)
  | .record _ parts shape, r => .object (parts.write (shape.take r))

/-- What is written for a part, if anything. -/
def Part.write {β : Type} : Part β → β → Option Json
  | .required codec, value => some (codec.write value)
  | .optional codec, value => value.map codec.write
  | .flag, b => some (.bool b)
  | .word, s => some (.text s)
  | .listed codec, values => if values.isEmpty then none else some (.array (values.map codec.write))
  | .constant s, _ => some (.text s)

/-- The members that are written for the parts of a record. -/
def Parts.write {names : List String} {P : Type} : Parts names P → P → List (String × Json)
  | .nil, _ => []
  | .cons name part rest _, p => Json.member name (part.write p.1) ++ rest.write p.2

end

/-- The names of the fields that a value is read from, none unless it is a record. -/
def fieldNames {β : Type} : Codec β → List String
  | .record _ parts _ => parts.fieldNames
  | _ => []

end Codec

end VirtLifecycle
