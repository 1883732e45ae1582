/-
Module: VirtLifecycle.Proofs.Yaml.OfJson
Purpose: Values of JSON as values of YAML documents, and the readers that take from the one what they
  take from the other. YAML is read more liberally, so a reader is carried over in one direction: what
  it takes from a value of JSON it takes from the same value in YAML. The sequencing of readers, the
  fields of records and the items of lists keep this, so a reader put together from them has it.
Main exports: Yaml.Node.ofJson, Yaml.Node.find?_ofJson, Kept, Kept.bind, Carried, Carried.freeform,
  Carried.listOf, Fields.inYaml, Fields.optional?_inYaml, Kept.ofRecord?, Kept.ofMembers?
-/
import VirtLifecycle.Codec
import VirtLifecycle.Json.MergePatch
import VirtLifecycle.Proofs.Document
import VirtLifecycle.Yaml.Node

namespace VirtLifecycle

open Document
open Yaml (Node)

variable {α β γ : Type}

/-- Changes every value in a layer. -/
def Layer.map (f : α → β) : Layer α → Layer β
  | null => .null
  | bool b => .bool b
  | number n => .number n
  | text s => .text s
  | list items => .list (items.map f)
  | record members => .record (members.map fun (key, value) => (key, f value))

namespace Yaml.Node

mutual

/-- The same value in a YAML document. -/
def ofJson : Json → Node
  | .null => .null
  | .bool b => .bool b
  | .number n => .number n
  | .text s => .text s
  | .array items => .list (ofItems items)
  | .object members => .mapping (ofMembers members)

def ofItems : List Json → List Node
  | [] => []
  | item :: rest => ofJson item :: ofItems rest

def ofMembers : List (String × Json) → List (Node × Node)
  | [] => []
  | (key, value) :: rest => (.text key, ofJson value) :: ofMembers rest

end

theorem ofItems_eq (items : List Json) : ofItems items = items.map ofJson := by
  induction items with
  | nil => rfl
  | cons item rest ih => rw [ofItems, ih, List.map_cons]

theorem ofMembers_eq (members : List (String × Json)) :
    ofMembers members = members.map fun (key, value) => (.text key, ofJson value) := by
  induction members with
  | nil => rfl
  | cons entry rest ih => rw [ofMembers, ih, List.map_cons]

/-- Both show the same under a key. -/
theorem find?_ofJson (key : String) (value : Json) :
    (ofJson value).find? key = (value.find? key).map ofJson := by
  cases value with
  | null | bool | number | text | array => rfl
  | object members =>
    rw [find?, ofJson, untagged.eq_def]
    simp only [Json.find?]
    induction members with
    | nil => rfl
    | cons entry rest ih =>
      rw [ofMembers, List.findSome?_cons, Keyed.find?]
      by_cases same : entry.1 = key
      · simp [same]
      · simpa [same] using ih

/-- Both show the same outermost layer. -/
theorem layer_ofJson (value : Json) : layer (ofJson value) = (layer value).map ofJson := by
  cases value with
  | null | bool | number | text => rfl
  | array items => exact congrArg Layer.list (ofItems_eq items)
  | object members =>
    rw [ofJson, ofMembers_eq]
    simp only [layer, untagged, Layer.map, List.map_map, Function.comp_def]
    rfl

mutual

/-- A value of JSON without numbers beyond the doubles is read from YAML as itself. -/
theorem json?_ofJson : {value : Json} → value.isUsable = true → (ofJson value).json? = some value
  | .null, _ | .bool _, _ | .text _, _ => rfl
  | .number _, usable => congrArg some (if_pos usable)
  | .array _, usable => by
    rw [ofJson, json?, jsonItems?_ofItems usable]
    rfl
  | .object _, usable => by
    rw [ofJson, json?, jsonEntries?_ofMembers usable]
    rfl

/-- A list that came from JSON is taken back as it was, if all of its numbers can be passed on. -/
theorem jsonItems?_ofItems : {items : List Json} → Json.areUsable items = true →
    jsonItems? (ofItems items) = some items
  | [], _ => rfl
  | _ :: _, usable => by
    obtain ⟨first, rest⟩ := Bool.and_eq_true_iff.mp usable
    rw [ofItems, jsonItems?, json?_ofJson first, jsonItems?_ofItems rest]
    rfl

theorem jsonEntries?_ofMembers : {members : List (String × Json)} →
    Json.membersUsable members = true → jsonEntries? (ofMembers members) = some members
  | [], _ => rfl
  | (_, _) :: _, usable => by
    obtain ⟨first, rest⟩ := Bool.and_eq_true_iff.mp usable
    rw [ofMembers, jsonEntries?, json?_ofJson first, jsonEntries?_ofMembers rest]
    rfl

end

end Yaml.Node

namespace Json

/-- The items of a list, none of other values. -/
def itemsOrNone : Json → List Json
  | array items => items
  | _ => []

/-- The values that an object gives under a key. -/
def under (key : String) (value : Json) : List Json :=
  (Fields.mk value.membersOrNone).all key

def isArray : Json → Bool
  | array _ => true
  | _ => false

/-- What is no list in JSON is none in YAML. -/
theorem layer_ne_list {value : Json} (listless : value.isArray = false) (items : List Json) :
    layer value ≠ .list items := by
  intro same
  cases value with
  | null | bool | number | text | object => cases same
  | array => cases listless

end Json

/-- What is no array does not show a list when it is carried over to a document either. -/
theorem Yaml.Node.layer_ofJson_ne_list {value : Json} (listless : value.isArray = false)
    (items : List Node) : layer (ofJson value) ≠ .list items := by
  intro same
  rw [layer_ofJson] at same
  cases shown : layer value with
  | list given => exact Json.layer_ne_list listless given shown
  | null | bool | number | text | record =>
    rw [shown] at same
    cases same

/-! ### Results that are kept -/

/-- What the first result gives, if anything, the second gives as well. -/
def Kept (x y : Option β) : Prop :=
  ∀ ⦃b : β⦄, x = some b → y = some b

namespace Kept

variable {x y : Option γ}

theorem refl (x : Option β) : Kept x x :=
  fun _ given => given

/-- A reader that takes nothing is carried over to any other one. -/
theorem of_none (y : Option β) : Kept none y :=
  fun _ given => nomatch given

/-- If what is read first is kept, and what is read after it for every result, then what is read in all is
kept. -/
theorem bind {next next' : γ → Option β} (first : Kept x y) (rest : ∀ c, Kept (next c) (next' c)) :
    Kept (x >>= next) (y >>= next') := by
  intro b given
  obtain ⟨c, found, given⟩ := Option.bind_eq_some_iff.mp given
  exact Option.bind_eq_some_iff.mpr ⟨c, first found, rest c given⟩

theorem map (kept : Kept x y) (f : γ → β) : Kept (x.map f) (y.map f) := by
  intro b given
  obtain ⟨c, found, same⟩ := Option.map_eq_some_iff.mp given
  exact Option.map_eq_some_iff.mpr ⟨c, kept found, same⟩

/-- If each value of a list is read to the same result after it is carried over, then so is the list. -/
theorem mapM {values : List α} {read : α → Option β} {read' : γ → Option β} (f : α → γ)
    (kept : ∀ value ∈ values, Kept (read value) (read' (f value))) :
    Kept (values.mapM read) ((values.map f).mapM read') := by
  induction values with
  | nil => exact .refl _
  | cons value rest ih =>
    rw [List.map_cons, List.mapM_cons, List.mapM_cons]
    refine (kept value List.mem_cons_self).bind fun first => ?_
    refine (ih fun value mem => kept value (List.mem_cons_of_mem _ mem)).bind fun others => ?_
    exact .refl _

/-- If a reader takes a missing value as nothing, so does the reader that it is carried over to. -/
theorem join {x y : Option (Option β)} (kept : Kept x y) : Kept x.join y.join :=
  fun _ given => Option.join_eq_some_iff.mpr (kept (Option.join_eq_some_iff.mp given))

end Kept

/-- What the reader takes from the value of JSON it takes from the same value in YAML. -/
def Carried (read : {α : Type} → [Document α] → α → Option β) (value : Json) : Prop :=
  Kept (read value) (read (Node.ofJson value))

namespace Carried

/-! ### Single values -/

theorem text (value : Json) : Carried text? value := by
  rw [Carried, text?, text?, Node.layer_ofJson]
  cases layer value <;> exact .refl _

theorem bool (value : Json) : Carried bool? value := by
  rw [Carried, bool?, bool?, Node.layer_ofJson]
  cases layer value <;> exact .refl _

/-- Integers between two bounds are read from a document as from JSON. No double of JSON is taken for an
integer by either. -/
theorem intWithin (low high : Int) (value : Json) : Carried (intWithin? low high) value := by
  rw [Carried, intWithin?, intWithin?, Node.layer_ofJson]
  cases layer value with
  | number n => cases n <;> exact .refl _
  | null | bool | text | list | record => exact .refl _

theorem int32 (value : Json) : Carried int32? value :=
  (intWithin _ _ value).map Int32.ofInt

theorem int64 (value : Json) : Carried int64? value :=
  (intWithin _ _ value).map Int64.ofInt

/-- Timestamps are read from a document as from JSON, since they are texts there. -/
theorem timestamp (value : Json) : Carried timestamp? value :=
  (text value).bind fun s => .refl (Timestamp.ofText? s)

/-- Free-form data are read from a document as from JSON: no tag stands in what was carried over, and keys
are texts. -/
theorem freeform (value : Json) : Carried freeform? value := by
  intro data given
  have usable := (Freeform.ofJson?_eq_some_iff.mp given).1
  exact Option.bind_eq_some_iff.mpr ⟨value, Node.json?_ofJson usable, given⟩

/-! ### Lists and maps -/

variable {read : {α : Type} → [Document α] → α → Option β}

/-- A list is carried over if its items are. -/
theorem listOf {value : Json} (carried : ∀ item ∈ value.itemsOrNone, Carried read item) :
    Carried (listOf? read) value := by
  cases value with
  | null | bool | number | text | object => exact .of_none _
  | array items =>
    have shown : items? (Node.ofJson (.array items)) = some (items.map Node.ofJson) :=
      congrArg some (Node.ofItems_eq items)
    rw [Carried, listOf?, listOf?, shown]
    exact Kept.mapM Node.ofJson carried

end Carried

/-- The members of a record show alike. -/
theorem members?_ofJson {value : Json} {members : List (String × Json)}
    (given : members? value = some members) :
    members? (Node.ofJson value) = some (members.map fun (key, member) => (key, .ofJson member)) := by
  cases value with
  | null | bool | number | text | array => cases given
  | object shown =>
    rw [members?_object] at given
    cases given
    apply members?_of_layer
    rw [Node.layer_ofJson]
    simp only [layer, Layer.map, List.map_map, Function.comp_def]

/-- Maps of texts are read from a document as from JSON, null for the empty map included. -/
theorem Carried.texts (value : Json) : Carried texts? value := by
  intro map given
  obtain ⟨members, shown, given⟩ := Option.bind_eq_some_iff.mp given
  obtain ⟨entries, found, given⟩ := Option.bind_eq_some_iff.mp given
  refine Option.bind_eq_some_iff.mpr ⟨_, members?_ofJson shown, ?_⟩
  refine Option.bind_eq_some_iff.mpr ⟨entries, Kept.mapM _ ?_ found, given⟩
  exact fun (key, member) _ => (text member).map (key, ·)

/-! ### Fields of records -/

namespace Fields

variable {read : {α : Type} → [Document α] → α → Option β} {f : Fields Json} {name : String}

/-- The same fields in a YAML document. -/
def inYaml (f : Fields Json) : Fields Node :=
  ⟨f.members.map fun (key, value) => (key, .ofJson value)⟩

/-- The values of a field are the same ones, each as a value of YAML. -/
theorem all_inYaml (f : Fields Json) (name : String) :
    f.inYaml.all name = (f.all name).map Node.ofJson := by
  rw [all, all, inYaml, List.filterMap_map, List.map_filterMap]
  congr 1
  funext entry
  simp only [Function.comp_apply]
  split <;> rfl

/-- So a field is given twice in the one exactly if it is in the other. -/
theorem unambiguous_inYaml (f : Fields Json) (names : List String) :
    f.inYaml.unambiguous names = f.unambiguous names := by
  simp only [unambiguous, all_inYaml, List.length_map]

/-- The last value given for a field is read as before if each value given for it is. -/
theorem last?_inYaml (carried : ∀ value ∈ f.all name, Carried read value) :
    Kept (f.last? name read) (f.inYaml.last? name read) := by
  rw [last?, last?, all_inYaml]
  generalize f.all name = values, (none : Option β) = before at carried ⊢
  induction values generalizing before with
  | nil => exact .refl _
  | cons value rest ih =>
    rw [List.map_cons, List.foldlM_cons, List.foldlM_cons]
    refine ((carried value List.mem_cons_self).map some).bind fun last => ?_
    exact ih last fun value mem => carried value (List.mem_cons_of_mem _ mem)

/-- An optional field is read as it is from JSON if its values are, since null is null in both. -/
theorem optional?_inYaml (carried : ∀ value ∈ f.all name, Carried read value) :
    Kept (f.optional? name read) (f.inYaml.optional? name read) := by
  have present : ∀ value ∈ f.all name,
      Carried (fun value => if isAbsent value then some none else (read value).map some) value := by
    intro value mem
    cases value with
    | null => exact .refl _
    | bool | number | text | array | object => exact (carried _ mem).map some
  exact (last?_inYaml present).map Option.join

theorem required?_inYaml (carried : ∀ value ∈ f.all name, Carried read value) :
    Kept (f.required? name read) (f.inYaml.required? name read) :=
  (last?_inYaml carried).join

theorem orDefault?_inYaml (default : β) (carried : ∀ value ∈ f.all name, Carried read value) :
    Kept (f.orDefault? name default read) (f.inYaml.orDefault? name default read) :=
  (last?_inYaml carried).map _

/-- A field with a default that null stands for too is read as before if each value given for it is. -/
theorem absentOr?_inYaml (default : β) (carried : ∀ value ∈ f.all name, Carried read value) :
    Kept (f.absentOr? name default read) (f.inYaml.absentOr? name default read) :=
  (optional?_inYaml carried).map _

end Fields

namespace Kept

variable {value : Json} {next : Fields Json → Option β} {next' : Fields Node → Option β}

/-- A record is carried over if what is made of its fields is. -/
theorem ofMembers? (rest : ∀ f : Fields Json, (∀ name, f.all name = value.under name) →
    Kept (next f) (next' f.inYaml)) :
    Kept (Fields.ofMembers? value >>= next) (Fields.ofMembers? (Node.ofJson value) >>= next') := by
  intro b given
  obtain ⟨f, shown, given⟩ := Option.bind_eq_some_iff.mp given
  obtain ⟨members, found, same⟩ := Option.map_eq_some_iff.mp shown
  subst same
  have all : ∀ name, Fields.all ⟨members⟩ name = value.under name := by
    cases value with
    | null | bool | number | text | array => cases found
    | object given =>
      rw [members?_object] at found
      cases found
      exact fun _ => rfl
  refine Option.bind_eq_some_iff.mpr ⟨Fields.inYaml ⟨members⟩, ?_, rest _ all given⟩
  exact Option.map_eq_some_iff.mpr ⟨_, members?_ofJson found, rfl⟩

/-- A record that is no list is carried over if what is made of its fields is. -/
theorem ofRecord? {names : List String} (listless : value.isArray = false)
    (rest : ∀ f : Fields Json, (∀ name, f.all name = value.under name) →
      Kept (next f) (next' f.inYaml)) :
    Kept (Fields.ofRecord? names value >>= next)
      (Fields.ofRecord? names (Node.ofJson value) >>= next') := by
  rw [Fields.ofRecord?_eq (Json.layer_ne_list listless),
    Fields.ofRecord?_eq (Node.layer_ofJson_ne_list listless), bind_assoc, bind_assoc]
  refine ofMembers? fun f all => ?_
  rw [Fields.unambiguous_inYaml]
  split
  · exact rest f all
  · exact .of_none _

end Kept

end VirtLifecycle
