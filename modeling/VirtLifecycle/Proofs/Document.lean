/-
Module: VirtLifecycle.Proofs.Document
Purpose: What the readers of documents take from objects of JSON. Records are read from their members,
  and a field from the values that are given for it; what a field has been read as stands in one of them.
Main exports: Document.members?_object, Document.texts?_ofTexts, Fields.ofRecord?_object,
  Fields.exists_of_optional?, Fields.all_eq_toList
-/
import Mathlib.Data.List.Induction
import VirtLifecycle.Proofs.Json.Canonical

namespace VirtLifecycle

open Document

variable {β : Type}

/-- A record with only text keys has all its members. -/
theorem Document.members?_of_layer {α : Type} [Document α] {value : α} {members : List (String × α)}
    (shown : layer value = .record (members.map fun (key, member) => (some key, member))) :
    members? value = some members := by
  rw [members?, shown]
  clear shown
  induction members with
  | nil => rfl
  | cons entry rest ih =>
    simp only [List.map_cons, List.mapM_cons] at ih ⊢
    rw [ih]
    rfl

/-- The members of an object are what they were. -/
theorem Document.members?_object (members : List (String × Json)) :
    members? (Json.object members) = some members :=
  members?_of_layer rfl

/-- An integer of 32 bits is read from the number that is written for it. -/
theorem Document.int32?_ofInt32 (n : Int32) : int32? (Json.ofInt32 n) = some n := by
  have bounds : -0x80000000 ≤ n.toInt ∧ n.toInt ≤ 0x7FFFFFFF :=
    ⟨n.le_toInt, Int.le_of_lt_add_one n.toInt_lt⟩
  rw [int32?, intWithin?, Json.ofInt32, Json.int, layer, Json.instDocument]
  simp only [if_pos bounds, Option.map_some, Int32.ofInt_toInt]

/-- An integer of 64 bits is read from the number that is written for it. -/
theorem Document.int64?_ofInt64 (n : Int64) : int64? (Json.ofInt64 n) = some n := by
  have bounds : -0x8000000000000000 ≤ n.toInt ∧ n.toInt ≤ 0x7FFFFFFFFFFFFFFF :=
    ⟨n.le_toInt, Int.le_of_lt_add_one n.toInt_lt⟩
  rw [int64?, intWithin?, Json.ofInt64, Json.int, layer, Json.instDocument]
  simp only [if_pos bounds, Option.map_some, Int64.ofInt_toInt]

/-- Maps are written in canonical form, since they keep their keys in order. -/
theorem Json.isCanonical_ofTexts (map : TextMap) : (ofTexts map).IsCanonical := by
  constructor
  · exact List.pairwise_map.mpr map.ascending
  · refine membersCanonical_iff.mpr fun entry mem => ?_
    obtain ⟨given, -, rfl⟩ := List.mem_map.mp mem
    trivial

/-- A map of texts is read from the object that is written for it. -/
theorem Document.texts?_ofTexts (map : TextMap) : texts? (Json.ofTexts map) = some map := by
  obtain ⟨map, ascending⟩ := map
  have entries : (map.mapValues Json.text).mapM
      (fun entry => (text? entry.2).map (entry.1, ·)) = some map := by
    clear ascending
    induction map with
    | nil => rfl
    | cons entry rest ih =>
      simp only [Keyed.mapValues, List.map_cons, List.mapM_cons] at ih ⊢
      rw [ih]
      rfl
  rw [texts?, Json.ofTexts, members?_object]
  simp only [Option.bind_eq_bind, Option.bind_some, entries, TextMap.ofList,
    Keyed.ofList_of_ascending ascending]

namespace Fields

variable {f g : Fields Json} {name : String} {read : Json → Option β} {b : β}

/-! ### The values given for a field -/

@[simp] theorem all_nil (name : String) : (Fields.mk ([] : List (String × Json))).all name = [] := rfl

/-- The first member is given for the field of its key, in front of what the others give. -/
@[simp] theorem all_cons (key : String) (value : Json) (members : List (String × Json))
    (name : String) : (Fields.mk ((key, value) :: members)).all name =
      (if key = name then [value] else []) ++ (Fields.mk members).all name := by
  simp only [all, List.filterMap_cons]
  split <;> simp_all

@[simp] theorem all_append (members others : List (String × Json)) (name : String) :
    (Fields.mk (members ++ others)).all name =
      (Fields.mk members).all name ++ (Fields.mk others).all name :=
  List.filterMap_append

/-- A member that may be left out gives its value to the field of its key, if it has one. -/
@[simp] theorem all_member (key : String) (value : Option Json) (name : String) :
    (Fields.mk (Json.member key value)).all name = if key = name then value.toList else [] := by
  cases value with
  | none => simp [Json.member]
  | some v => simp [Json.member]

/-- The first of the values that are given for a field is the one that a look-up finds. -/
theorem find?_eq_head? (members : List (String × Json)) (name : String) :
    Keyed.find? name members = ((Fields.mk members).all name).head? := by
  induction members with
  | nil => rfl
  | cons entry rest ih =>
    rw [Keyed.find?, all_cons, ih]
    split <;> rfl

/-! ### Records as objects -/

theorem ofMembers?_object (members : List (String × Json)) :
    ofMembers? (Json.object members) = some ⟨members⟩ := by
  rw [ofMembers?, members?_object]
  rfl

/-- A record that is no list is read from its members. -/
theorem ofRecord?_eq {α : Type} [Document α] {value : α} (listless : ∀ items, layer value ≠ .list items)
    (names : List String) : ofRecord? names value =
      ofMembers? value >>= fun f => if f.unambiguous names then some f else none := by
  rw [ofRecord?]
  split
  · rename_i items shown
    exact absurd shown (listless items)
  · cases shown : members? value <;> simp [ofMembers?, shown]

theorem ofRecord?_object {members : List (String × Json)} {names : List String}
    (once : (Fields.mk members).unambiguous names = true) :
    ofRecord? names (Json.object members) = some ⟨members⟩ := by
  have listless : ∀ items, layer (Json.object members) ≠ .list items := fun _ same => nomatch same
  rw [ofRecord?_eq listless, ofMembers?_object]
  exact if_pos once

/-! ### Fields that have been read -/

/-- What counts for a field has been read from a value given for it. -/
theorem exists_of_last? (given : f.last? name read = some (some b)) :
    ∃ value ∈ f.all name, read value = some b := by
  suffices ∀ before : Option β, (f.all name).foldlM (fun _ value => (read value).map some) before =
      some (some b) → before = some b ∨ ∃ value ∈ f.all name, read value = some b by
    rcases this none given with none | found
    · cases none
    · exact found
  clear given
  induction f.all name with
  | nil => exact fun before given => .inl (Option.some.inj given)
  | cons value rest ih =>
    intro before given
    simp only [List.foldlM_cons, Option.bind_eq_bind, Option.bind_eq_some_iff,
      Option.map_eq_some_iff] at given
    obtain ⟨_, ⟨c, first, rfl⟩, later⟩ := given
    rcases ih _ later with same | ⟨value, mem, read⟩
    · exact .inr ⟨value, List.mem_cons_self, Option.some.inj same ▸ first⟩
    · exact .inr ⟨value, List.mem_cons_of_mem _ mem, read⟩

theorem exists_of_required? (given : f.required? name read = some b) :
    ∃ value, read value = some b := by
  obtain ⟨value, _, read⟩ := exists_of_last? (Option.join_eq_some_iff.mp given)
  exact ⟨value, read⟩

/-- What is read for an optional field, if anything, was read from a value that is not null. -/
theorem exists_of_optional? (given : f.optional? name read = some (some b)) :
    ∃ value : Json, value.isNull = false ∧ read value = some b := by
  obtain ⟨last, given, joined⟩ := Option.map_eq_some_iff.mp given
  rw [Option.join_eq_some_iff.mp joined] at given
  obtain ⟨value, _, given⟩ := exists_of_last? given
  split at given
  · cases given
  · rename_i shown
    obtain ⟨c, read, same⟩ := Option.map_eq_some_iff.mp given
    exact ⟨value, Bool.not_eq_true _ ▸ shown, Option.some.inj same ▸ read⟩

/-- What is read for a field with a default is the default, or was read from some value. -/
theorem exists_of_orDefault? {default : β} (given : f.orDefault? name default read = some b) :
    b = default ∨ ∃ value, read value = some b := by
  obtain ⟨last, given, chosen⟩ := Option.map_eq_some_iff.mp given
  cases last with
  | none => exact .inl chosen.symm
  | some c =>
    obtain ⟨value, _, read⟩ := exists_of_last? given
    exact .inr ⟨value, chosen ▸ read⟩

end Fields

/-! ### The canonical form of a record -/

/-- In a list brought into order, the last value under a key counts. -/
theorem Keyed.find?_ofList (entries : List (String × β)) (key : String) :
    find? key (ofList entries) = ((Fields.mk entries).all key).getLast? := by
  induction entries using List.reverseRecOn with
  | nil => rfl
  | append_singleton before entry ih =>
    have last : ofList (before ++ [entry]) = insert entry.1 entry.2 (ofList before) := by
      rw [ofList, List.foldl_append]
      rfl
    rw [last, find?_insert, ih]
    simp only [Fields.all, List.filterMap_append, List.filterMap_cons, List.filterMap_nil]
    split
    · rw [List.getLast?_concat]
    · rw [List.append_nil]

theorem Json.canonicalMembers_eq (members : List (String × Json)) :
    canonicalMembers members = Keyed.mapValues canonical members := by
  induction members with
  | nil => rfl
  | cons entry rest ih =>
    rw [canonicalMembers, ih]
    rfl

/-- In a canonical form, too, the last value under a key counts. -/
theorem Json.find?_canonical_eq (members : List (String × Json)) (key : String) :
    (object members).canonical.find? key = ((Fields.mk members).all key).getLast?.map canonical := by
  rw [canonical, find?, canonicalMembers_eq, Keyed.find?_ofList, ← List.getLast?_map]
  apply congrArg List.getLast?
  simp only [Fields.all, Keyed.mapValues, List.filterMap_map, List.map_filterMap]
  apply congrArg (List.filterMap · members)
  funext entry
  dsimp only [Function.comp_apply]
  split <;> rfl

/-- Different names show at most one value each. -/
theorem Fields.all_eq_toList {members : List (String × Json)} (nodup : (members.map Prod.fst).Nodup)
    (name : String) : (Fields.mk members).all name = (Keyed.find? name members).toList := by
  induction members with
  | nil => rfl
  | cons entry rest ih =>
    obtain ⟨key, value⟩ := entry
    obtain ⟨new, nodup⟩ := List.nodup_cons.mp nodup
    rw [all_cons, ih nodup, Keyed.find?]
    split
    · rename_i same
      rw [← same, Keyed.find?_of_not_mem new]
      rfl
    · rfl

/-- Under a name that stands once at most is the canonical form of what is written under it. -/
theorem Json.find?_canonical_of_all {members : List (String × Json)} {key : String} {value : Option Json}
    (all : (Fields.mk members).all key = value.toList) :
    (object members).canonical.find? key = value.map canonical := by
  rw [find?_canonical_eq, all]
  cases value <;> rfl

/-- In canonical form an object with different keys holds the canonical form of what it held. -/
theorem Json.find?_canonical {members : List (String × Json)} (nodup : (members.map Prod.fst).Nodup)
    (key : String) : (object members).canonical.find? key = (Keyed.find? key members).map canonical :=
  find?_canonical_of_all (Fields.all_eq_toList nodup key)

/-- An ascending list has each key once. -/
theorem Keyed.nodup_of_ascending {members : Keyed β} (ascending : Ascending members) :
    (members.map Prod.fst).Nodup := by
  apply List.pairwise_map.mpr
  apply ascending.imp
  intro a b below same
  exact String.lt_irrefl _ (same ▸ below)

/-! ### Documents in another order -/

/-- A function on documents that keeps what they say. Lists stay in order, members under different names
may change places, and what has a canonical form already stays as it is. -/
structure Json.Rearranges (g : Json → Json) : Prop where
  keeps : ∀ value : Json, value.IsCanonical → g value = value
  array : ∀ items, g (.array items) = .array (items.map g)
  object : ∀ {members : List (String × Json)}, (members.map Prod.fst).Nodup →
    ∃ others, g (.object members) = .object others ∧
      ∀ name, (Fields.mk others).all name = ((Fields.mk members).all name).map g
  isNull : ∀ value, (g value).isNull = value.isNull

namespace Json.Rearranges

/-- Documents may stay as they are. -/
protected theorem id : Rearranges id where
  keeps _ _ := rfl
  array _ := by rw [List.map_id]; rfl
  object {members} _ := ⟨members, rfl, fun _ => (List.map_id _).symm⟩
  isNull _ := rfl

/-- Documents may be brought into canonical form. -/
protected theorem canonical : Rearranges Json.canonical where
  keeps _ := canonical_of_isCanonical
  array items := by
    rw [Json.canonical]
    congr 1
    induction items with
    | nil => rfl
    | cons item rest ih => rw [canonicalItems, ih, List.map_cons]
  object {members} nodup := by
    refine ⟨_, rfl, fun name => ?_⟩
    have ordered := Keyed.nodup_of_ascending (Keyed.Ascending.ofList (canonicalMembers members))
    rw [Fields.all_eq_toList ordered, Fields.all_eq_toList nodup]
    change ((Json.object members).canonical.find? name).toList = _
    rw [find?_canonical nodup]
    cases Keyed.find? name members <;> rfl
  isNull := isNull_canonical

end Json.Rearranges

end VirtLifecycle
