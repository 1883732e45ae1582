/-
Module: VirtLifecycle.Json.Freeform
Purpose: Free-form data: the parts of objects that are only passed on, and patches. Each key of an object
  stands once, keys ascend, and every number is finite, so data that are equal are equal as values.
Specification: [SPEC 3 Data model]: the parts of specs that the core does not look into, and the patches
  of `update_*`.
Main exports: Json.isCanonical_canonical, Json.isUsable_canonical, Freeform, Freeform.ofJson?
-/
import VirtLifecycle.Json.Basic

namespace VirtLifecycle

namespace Json

theorem membersCanonical_iff {members : List (String × Json)} :
    MembersCanonical members ↔ ∀ entry ∈ members, IsCanonical entry.2 := by
  induction members with
  | nil => simp [MembersCanonical]
  | cons entry rest ih => simp [MembersCanonical, ih]

theorem areCanonical_iff {items : List Json} :
    AreCanonical items ↔ ∀ item ∈ items, IsCanonical item := by
  induction items with
  | nil => simp [AreCanonical]
  | cons item rest ih => simp [AreCanonical, ih]

mutual

def decideCanonical : (value : Json) → Decidable value.IsCanonical
  | null | bool _ | number _ | text _ => isTrue trivial
  | array items => decideItemsCanonical items
  | object members =>
    @instDecidableAnd (Keyed.Ascending members) _ inferInstance (decideMembersCanonical members)

def decideItemsCanonical : (items : List Json) → Decidable (AreCanonical items)
  | [] => isTrue trivial
  | item :: rest => @instDecidableAnd _ _ (decideCanonical item) (decideItemsCanonical rest)

def decideMembersCanonical : (members : List (String × Json)) → Decidable (MembersCanonical members)
  | [] => isTrue trivial
  | (_, value) :: rest => @instDecidableAnd _ _ (decideCanonical value) (decideMembersCanonical rest)

end

instance (value : Json) : Decidable value.IsCanonical := decideCanonical value

theorem membersUsable_iff {members : List (String × Json)} :
    membersUsable members = true ↔ ∀ entry ∈ members, isUsable entry.2 = true := by
  induction members with
  | nil => simp [membersUsable]
  | cons entry rest ih => simp [membersUsable, ih]

mutual

/-- A canonical form has ascending keys throughout. -/
theorem isCanonical_canonical : (value : Json) → IsCanonical (canonical value)
  | null | bool _ | number _ | text _ => trivial
  | array items => areCanonical_canonical items
  | object members => by
    have given := membersCanonical_iff.mp (membersCanonical_canonical members)
    exact ⟨.ofList _, membersCanonical_iff.mpr fun entry mem => given entry (Keyed.mem_ofList mem)⟩

theorem areCanonical_canonical : (items : List Json) → AreCanonical (canonicalItems items)
  | [] => trivial
  | item :: rest => ⟨isCanonical_canonical item, areCanonical_canonical rest⟩

theorem membersCanonical_canonical :
    (members : List (String × Json)) → MembersCanonical (canonicalMembers members)
  | [] => trivial
  | (_, value) :: rest => ⟨isCanonical_canonical value, membersCanonical_canonical rest⟩

end

mutual

/-- A canonical form has only numbers of the value itself. -/
theorem isUsable_canonical : {value : Json} → value.isUsable = true → value.canonical.isUsable = true
  | null, _ | bool _, _ | text _, _ => rfl
  | number _, usable => usable
  | array _, usable => areUsable_canonical usable
  | object _, usable => by
    have given := membersUsable_iff.mp (membersUsable_canonical usable)
    exact membersUsable_iff.mpr fun entry mem => given entry (Keyed.mem_ofList mem)

theorem areUsable_canonical :
    {items : List Json} → areUsable items = true → areUsable (canonicalItems items) = true
  | [], _ => rfl
  | _ :: _, usable => by
    obtain ⟨first, rest⟩ := Bool.and_eq_true_iff.mp usable
    exact Bool.and_eq_true_iff.mpr ⟨isUsable_canonical first, areUsable_canonical rest⟩

theorem membersUsable_canonical : {members : List (String × Json)} →
    membersUsable members = true → membersUsable (canonicalMembers members) = true
  | [], _ => rfl
  | (_, _) :: _, usable => by
    obtain ⟨first, rest⟩ := Bool.and_eq_true_iff.mp usable
    exact Bool.and_eq_true_iff.mpr ⟨isUsable_canonical first, membersUsable_canonical rest⟩

end

end Json

/-- Free-form data. -/
structure Freeform where
  value : Json
  canonical : value.IsCanonical
  usable : value.isUsable = true
deriving Repr

namespace Freeform

instance : BEq Freeform := ⟨fun a b => a.value == b.value⟩

instance : Inhabited Freeform := ⟨⟨.null, trivial, rfl⟩⟩

/-- The data that a document gives in one of its values. A number beyond the doubles cannot be passed on. -/
def ofJson? (value : Json) : Option Freeform :=
  if usable : value.isUsable = true then
    some ⟨value.canonical, Json.isCanonical_canonical value, Json.isUsable_canonical usable⟩
  else none

theorem eq_of_value_eq {a b : Freeform} (same : a.value = b.value) : a = b := by
  cases a
  cases b
  cases same
  rfl

end Freeform

end VirtLifecycle
