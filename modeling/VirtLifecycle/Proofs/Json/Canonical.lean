/-
Module: VirtLifecycle.Proofs.Json.Canonical
Purpose: A value with ascending keys throughout is its own canonical form. So free-form data is read as
  itself.
Main exports: Keyed.ofList_of_ascending, Json.canonical_of_isCanonical, Freeform.ofJson?_value
-/
import VirtLifecycle.Document

namespace VirtLifecycle

namespace Keyed

variable {α : Type}

theorem mem_of_find? {key : String} {value : α} {map : Keyed α} (found : find? key map = some value) :
    (key, value) ∈ map := by
  induction map with
  | nil => cases found
  | cons entry rest ih =>
    obtain ⟨k, v⟩ := entry
    rw [find?] at found
    split at found
    · rename_i same
      cases found
      rw [same]
      exact List.mem_cons_self
    · exact List.mem_cons_of_mem _ (ih found)

theorem find?_of_not_mem {key : String} {map : Keyed α} (new : key ∉ map.map Prod.fst) :
    find? key map = none := by
  apply Option.eq_none_iff_forall_ne_some.mpr
  intro value found
  exact new (List.mem_map.mpr ⟨_, mem_of_find? found, rfl⟩)

/-- In an ascending map every entry is found under its key, since no other entry has that key. -/
theorem find?_of_mem {map : Keyed α} (ascending : Ascending map) {key : String} {value : α}
    (mem : (key, value) ∈ map) : find? key map = some value := by
  induction map with
  | nil => cases mem
  | cons entry rest ih =>
    obtain ⟨below, ascending⟩ := List.pairwise_cons.mp ascending
    rcases List.mem_cons.mp mem with rfl | later
    · exact if_pos rfl
    · have different : entry.1 ≠ key := fun same =>
        String.lt_irrefl key (same ▸ below (key, value) later)
      rw [find?, if_neg different]
      exact ih ascending later

/-- An entry above all others goes to the end. -/
theorem insert_above {map : Keyed α} {key : String} (above : ∀ entry ∈ map, entry.1 < key)
    (value : α) : insert key value map = map ++ [(key, value)] := by
  induction map with
  | nil => rfl
  | cons first rest ih =>
    have lower := above first List.mem_cons_self
    have notBelow : ¬ key < first.1 := fun upper => String.lt_asymm lower upper
    have different : first.1 ≠ key := fun same => String.lt_irrefl key (same ▸ lower)
    rw [insert, if_neg notBelow, if_neg different,
      ih fun entry mem => above entry (List.mem_cons_of_mem _ mem)]
    rfl

/-- An ascending list is the ascending list of its entries. -/
theorem ofList_of_ascending {map : Keyed α} (ascending : Ascending map) : ofList map = map := by
  suffices ∀ before : Keyed α, Ascending (before ++ map) →
      map.foldl (fun map entry => map.insert entry.1 entry.2) before = before ++ map from
    this [] ascending
  clear ascending
  induction map with
  | nil => exact fun before _ => (List.append_nil before).symm
  | cons first rest ih =>
    intro before ascending
    have above : ∀ entry ∈ before, entry.1 < first.1 := fun entry mem =>
      (List.pairwise_append.mp ascending).2.2 entry mem first List.mem_cons_self
    rw [List.foldl_cons, insert_above above, ih _ (by simpa using ascending), List.append_assoc]
    rfl

end Keyed

namespace Json

mutual

/-- A value with ascending keys throughout is its own canonical form. -/
theorem canonical_of_isCanonical : {value : Json} → IsCanonical value → canonical value = value
  | null, _ | bool _, _ | number _, _ | text _, _ => rfl
  | array _, ascending => congrArg array (canonicalItems_of_areCanonical ascending)
  | object members, ascending => by
    rw [canonical, canonicalMembers_of_membersCanonical ascending.2,
      Keyed.ofList_of_ascending ascending.1]

theorem canonicalItems_of_areCanonical :
    {items : List Json} → AreCanonical items → canonicalItems items = items
  | [], _ => rfl
  | _ :: _, ascending => by
    rw [canonicalItems, canonical_of_isCanonical ascending.1,
      canonicalItems_of_areCanonical ascending.2]

theorem canonicalMembers_of_membersCanonical :
    {members : List (String × Json)} → MembersCanonical members → canonicalMembers members = members
  | [], _ => rfl
  | (_, _) :: _, ascending => by
    rw [canonicalMembers, canonical_of_isCanonical ascending.1,
      canonicalMembers_of_membersCanonical ascending.2]

end

theorem isNull_canonical (value : Json) : value.canonical.isNull = value.isNull := by
  cases value <;> rfl

end Json

namespace Freeform

/-- Free-form data is read as itself. -/
theorem ofJson?_value (data : Freeform) : ofJson? data.value = some data := by
  rw [ofJson?, dif_pos data.usable]
  exact congrArg some (eq_of_value_eq (Json.canonical_of_isCanonical data.canonical))

/-- What is read from a value is its canonical form, if that can be passed on. -/
theorem ofJson?_eq_some_iff {value : Json} {data : Freeform} :
    ofJson? value = some data ↔ value.isUsable = true ∧ data.value = value.canonical := by
  rw [ofJson?]
  split
  · rename_i usable
    rw [Option.some_inj, and_iff_right usable]
    exact ⟨fun same => same ▸ rfl, fun same => eq_of_value_eq same.symm⟩
  · rename_i unusable
    simp [unusable]

end Freeform

end VirtLifecycle
