/-
Module: VirtLifecycle.Document
Purpose: Reading typed data out of a document, whatever format it is written in. A format shows one
  layer of a value at a time and states where its rules differ: whether a record may be written as
  the list of its fields, and whether null stands for an empty record, list or map.
Specification: [SPEC 10 Serialization]: what reading typed data asks of a format, JSON for the server
  and YAML for manifests.
Main exports: Layer, Document, Document.text?, Document.int32?, Document.int64?, Document.items?,
  Document.texts?, Fields, Fields.ofRecord?, Fields.optional?, Fields.required?, Fields.orDefault?
-/
import VirtLifecycle.Json.Freeform

namespace VirtLifecycle

/-- The outermost layer of a value. A key that is no text shows as `none`. -/
inductive Layer (α : Type) where
  | null
  | bool (value : Bool)
  | number (value : Json.Number)
  | text (value : String)
  | list (items : List α)
  | record (members : List (Option String × α))
deriving Repr, Inhabited

/-- A format of documents. -/
class Document (α : Type) where
  /-- The outermost layer of a value. -/
  layer : α → Layer α
  /-- Whether the value stands for the absence of an optional field. -/
  isAbsent : α → Bool
  /-- The value as free-form data, if it is such. -/
  freeform? : α → Option Freeform
  /-- Whether a record may be written as a list of its fields in order. -/
  positional : Bool
  /-- Whether null stands for an empty record, list or map. -/
  nullIsEmpty : Bool

namespace Document

variable {α β : Type} [Document α]

def text? (value : α) : Option String :=
  match layer value with
  | .text s => some s
  | _ => none

def bool? (value : α) : Option Bool :=
  match layer value with
  | .bool b => some b
  | _ => none

/-- An integer in the given bounds, both included. -/
def intWithin? (low high : Int) (value : α) : Option Int :=
  match layer value with
  | .number (.int n) => if low ≤ n ∧ n ≤ high then some n else none
  | _ => none

def int32? (value : α) : Option Int32 :=
  (intWithin? (-0x80000000) 0x7FFFFFFF value).map Int32.ofInt

def int64? (value : α) : Option Int64 :=
  (intWithin? (-0x8000000000000000) 0x7FFFFFFFFFFFFFFF value).map Int64.ofInt

/-- The items of a list. -/
def items? (value : α) : Option (List α) :=
  match layer value with
  | .list items => some items
  | .null => if nullIsEmpty α then some [] else none
  | _ => none

/-- A list with every item read. -/
def listOf? (read : α → Option β) (value : α) : Option (List β) :=
  (items? value).bind (·.mapM read)

/-- The members of a record, if all keys are texts. -/
def members? (value : α) : Option (List (String × α)) :=
  match layer value with
  | .record members => members.mapM fun (key, member) => key.map (·, member)
  | .null => if nullIsEmpty α then some [] else none
  | _ => none

/-- A map from texts to texts. -/
def texts? (value : α) : Option TextMap := do
  let members ← members? value
  let entries ← members.mapM fun (key, member) => (text? member).map (key, ·)
  some (.ofList entries)

end Document

/-- The fields of a record as a document gives them, in its order. -/
structure Fields (α : Type) where
  members : List (String × α)
deriving Repr, Inhabited

namespace Fields

open Document

variable {α β : Type} [Document α]

/-- The values given for a field. -/
def all (f : Fields α) (name : String) : List α :=
  f.members.filterMap fun (key, value) => if key = name then some value else none

/-- No name of the list stands for two values. -/
def unambiguous (f : Fields α) (names : List String) : Bool :=
  names.all fun name => (f.all name).length ≤ 1

/-- The fields of a record with the given field names, each given at most once. Where the format
allows it, the record may also be a list with the fields in order, of which the last may be left
out. -/
def ofRecord? (names : List String) (value : α) : Option (Fields α) :=
  match layer value with
  | .list items =>
    if positional α ∧ items.length ≤ names.length then some ⟨names.zip items⟩ else none
  | _ => do
    let fields : Fields α := ⟨← members? value⟩
    if fields.unambiguous names then some fields else none

/-- The fields of a record that is not written as a list; of a field given twice the last value
counts. -/
def ofMembers? (value : α) : Option (Fields α) :=
  (members? value).map Fields.mk

/-- The last value given for a field; every one has to be readable. -/
def last? (f : Fields α) (name : String) (read : α → Option β) : Option (Option β) :=
  (f.all name).foldlM (fun _ value => (read value).map some) none

/-- A field that may be missing or absent. -/
def optional? (f : Fields α) (name : String) (read : α → Option β) : Option (Option β) :=
  (f.last? name fun value => if isAbsent value then some none else (read value).map some).map
    Option.join

/-- A field that has to be there. -/
def required? (f : Fields α) (name : String) (read : α → Option β) : Option β :=
  (f.last? name read).join

/-- A field that has a default when it is missing; it cannot be null. -/
def orDefault? (f : Fields α) (name : String) (default : β) (read : α → Option β) : Option β :=
  (f.last? name read).map (·.getD default)

/-- A field that has a default when it is missing or absent. -/
def absentOr? (f : Fields α) (name : String) (default : β) (read : α → Option β) : Option β :=
  (f.optional? name read).map (·.getD default)

end Fields

namespace Json

/-- A value of JSON as a document. -/
instance : Document Json where
  layer
    | null => .null
    | bool b => .bool b
    | number n => .number n
    | text s => .text s
    | array items => .list items
    | object members => .record (members.map fun (key, value) => (some key, value))
  isAbsent := isNull
  freeform? := Freeform.ofJson?
  positional := true
  nullIsEmpty := false

/-- A member of an object, left out if there is no value. -/
def member (key : String) (value : Option Json) : List (String × Json) :=
  match value with
  | some v => [(key, v)]
  | none => []

def ofInt32 (n : Int32) : Json := int n.toInt
def ofInt64 (n : Int64) : Json := int n.toInt

/-- A map from texts to texts as an object. -/
def ofTexts (map : TextMap) : Json :=
  object (map.entries.mapValues text)

end Json

end VirtLifecycle
