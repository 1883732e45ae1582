/-
Module: VirtLifecycle.Keyed
Purpose: Association lists over texts. Operations keep an ascending list ascending, and in an
  ascending list each key stands once, so equal maps are equal lists.
Specification: [SPEC 10 Serialization]: the maps in objects (labels, annotations, node selectors),
  ordered by their keys.
Main exports: Keyed.find?, Keyed.insert, Keyed.erase, Keyed.ofList, Keyed.Ascending, TextMap
-/

namespace VirtLifecycle

/-- Values under text keys. -/
abbrev Keyed (α : Type) := List (String × α)

namespace Keyed

variable {α β : Type}

/-- The first value under a key. -/
def find? (key : String) : Keyed α → Option α
  | [] => none
  | (k, v) :: rest => if k = key then some v else find? key rest

/-- Puts a value under a key, replacing the one that is there. -/
def insert (key : String) (value : α) : Keyed α → Keyed α
  | [] => [(key, value)]
  | (k, v) :: rest =>
    if key < k then (key, value) :: (k, v) :: rest
    else if k = key then (key, value) :: rest
    else (k, v) :: insert key value rest

/-- Takes a key out. -/
def erase (key : String) : Keyed α → Keyed α
  | [] => []
  | (k, v) :: rest => if k = key then rest else (k, v) :: erase key rest

/-- The ascending list of the given entries; of several entries under one key the last counts. -/
def ofList (entries : List (String × α)) : Keyed α :=
  entries.foldl (fun map entry => map.insert entry.1 entry.2) []

/-- Each key is below all later ones. -/
def Ascending (map : Keyed α) : Prop :=
  List.Pairwise (fun a b => a.1 < b.1) map

instance (map : Keyed α) : Decidable (Ascending map) :=
  inferInstanceAs (Decidable (List.Pairwise _ _))

/-- Changes every value. -/
def mapValues (f : α → β) (map : Keyed α) : Keyed β :=
  List.map (fun entry => (entry.1, f entry.2)) map

@[simp] theorem find?_nil (key : String) : find? key ([] : Keyed α) = none := rfl

@[simp] theorem ofList_nil : ofList ([] : List (String × α)) = [] := rfl

theorem find?_mapValues (f : α → β) (key : String) (map : Keyed α) :
    find? key (mapValues f map) = (find? key map).map f := by
  induction map with
  | nil => rfl
  | cons entry rest ih =>
    simp only [mapValues, List.map_cons, find?] at *
    split <;> simp_all

/-- Reading a key after writing it gives what was written; other keys are as before. -/
theorem find?_insert (key other : String) (value : α) (map : Keyed α) :
    find? other (insert key value map) = if key = other then some value else find? other map := by
  induction map with
  | nil => simp [insert, find?]
  | cons entry rest ih =>
    simp only [insert]
    split
    · simp [find?]
    · split
      · rename_i h
        simp only [find?, h]
        split <;> rfl
      · rename_i h
        simp only [find?, ih]
        split
        · rename_i same
          have different : key ≠ other := fun e => h (same.trans e.symm)
          simp [different]
        · rfl

/-- An entry of the list after a write is the written one or was there before. -/
theorem eq_or_mem_of_mem_insert {key : String} {value : α} {map : Keyed α} {entry : String × α}
    (h : entry ∈ insert key value map) : entry = (key, value) ∨ entry ∈ map := by
  induction map with
  | nil => simpa [insert] using h
  | cons first rest ih =>
    simp only [insert] at h
    split at h
    · simpa using h
    · split at h <;> grind

theorem Ascending.insert {map : Keyed α} (h : Ascending map) (key : String) (value : α) :
    Ascending (insert key value map) := by
  induction map with
  | nil => exact List.pairwise_singleton _ _
  | cons first rest ih =>
    obtain ⟨below, ascending⟩ := List.pairwise_cons.1 h
    simp only [Keyed.insert]
    split
    · rename_i lower
      refine List.pairwise_cons.2 ⟨fun entry mem => ?_, h⟩
      rcases List.mem_cons.1 mem with rfl | mem
      · exact lower
      · exact String.lt_trans lower (below entry mem)
    · rename_i notLower
      split
      · rename_i same
        exact List.pairwise_cons.2 ⟨fun entry mem => same ▸ below entry mem, ascending⟩
      · rename_i different
        refine List.pairwise_cons.2 ⟨fun entry mem => ?_, ih ascending⟩
        rcases eq_or_mem_of_mem_insert mem with rfl | mem
        · exact Decidable.by_contra fun notAbove =>
            different (String.le_antisymm (String.not_lt.1 notLower) (String.not_lt.1 notAbove))
        · exact below entry mem

theorem Ascending.ofList (entries : List (String × α)) : Ascending (ofList entries) := by
  suffices ∀ map : Keyed α, Ascending map →
      Ascending (entries.foldl (fun map entry => map.insert entry.1 entry.2) map) from
    this [] List.Pairwise.nil
  induction entries with
  | nil => exact fun _ h => h
  | cons entry rest ih => exact fun _ h => ih _ (h.insert entry.1 entry.2)

/-- What is in the ascending list was given. -/
theorem mem_ofList {entries : List (String × α)} {entry : String × α} (mem : entry ∈ ofList entries) :
    entry ∈ entries := by
  suffices ∀ map : Keyed α,
      entry ∈ entries.foldl (fun map entry => map.insert entry.1 entry.2) map →
        entry ∈ map ∨ entry ∈ entries by
    rcases this [] mem with none | some
    · cases none
    · exact some
  clear mem
  induction entries with
  | nil => exact fun _ mem => .inl mem
  | cons first rest ih =>
    intro map mem
    rcases ih _ mem with early | late
    · rcases eq_or_mem_of_mem_insert early with rfl | before
      · exact .inr List.mem_cons_self
      · exact .inl before
    · exact .inr (List.mem_cons_of_mem _ late)

theorem mem_of_mem_erase {key : String} {map : Keyed α} {entry : String × α}
    (h : entry ∈ erase key map) : entry ∈ map := by
  induction map with
  | nil => exact h
  | cons first rest ih =>
    simp only [erase] at h
    split at h <;> grind

theorem Ascending.erase {map : Keyed α} (h : Ascending map) (key : String) :
    Ascending (erase key map) := by
  induction map with
  | nil => exact h
  | cons first rest ih =>
    obtain ⟨below, ascending⟩ := List.pairwise_cons.1 h
    simp only [Keyed.erase]
    split
    · exact ascending
    · exact List.pairwise_cons.2
        ⟨fun entry mem => below entry (mem_of_mem_erase mem), ih ascending⟩

/-- Nothing is under a key below all keys of the list. -/
theorem find?_eq_none_of_below {key : String} {map : Keyed α}
    (h : ∀ entry ∈ map, key < entry.1) : find? key map = none := by
  induction map with
  | nil => rfl
  | cons first rest ih =>
    have lower := h first (List.mem_cons_self ..)
    have different : first.1 ≠ key := fun same => String.lt_irrefl key (same ▸ lower)
    simp only [find?, different, if_false]
    exact ih fun entry mem => h entry (List.mem_cons_of_mem _ mem)

/-- Taking a key out of an ascending list leaves nothing under it; other keys are as before. -/
theorem find?_erase {map : Keyed α} (h : Ascending map) (key other : String) :
    find? other (erase key map) = if key = other then none else find? other map := by
  induction map with
  | nil => simp [Keyed.erase, find?]
  | cons first rest ih =>
    obtain ⟨below, ascending⟩ := List.pairwise_cons.1 h
    simp only [Keyed.erase]
    split
    · rename_i same
      split
      · rename_i asked
        exact find?_eq_none_of_below fun entry mem => asked ▸ same ▸ below entry mem
      · rename_i asked
        have different : first.1 ≠ other := fun e => asked (same.symm.trans e)
        simp [find?, different]
    · rename_i different
      simp only [find?, ih ascending]
      split
      · rename_i found
        have asked : key ≠ other := fun e => different (found.trans e.symm)
        simp [asked]
      · rfl

end Keyed

/-- A map from texts to texts, such as the labels of an object: each key once, in ascending order. -/
structure TextMap where
  entries : Keyed String
  ascending : entries.Ascending
deriving DecidableEq, Repr

namespace TextMap

instance : Inhabited TextMap := ⟨⟨[], List.Pairwise.nil⟩⟩

/-- The map of the given entries; of several entries under one key the last counts. -/
def ofList (entries : List (String × String)) : TextMap :=
  ⟨Keyed.ofList entries, .ofList entries⟩

end TextMap

end VirtLifecycle
