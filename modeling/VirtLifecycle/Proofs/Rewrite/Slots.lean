/-
Module: VirtLifecycle.Proofs.Rewrite.Slots
Purpose: What becomes of a document that is read as typed data and written again. A record is told by its
  slots: what is under each name is rewritten on its own, and all that is under other names is dropped.
  What has been rewritten once stays as it is.
Main exports: Rewrite, Rewrite.Stable, Slot, Slot.Stable, Record, Record.rewrite, Record.Stable.rewrite
-/
import VirtLifecycle.Proofs.Document
import VirtLifecycle.Proofs.Json.MergePatch

namespace VirtLifecycle

open Json (IsCanonicalAt)

variable {β : Type}

/-- What a value becomes when it is read and written again, if it can be read. -/
abbrev Rewrite := Json → Option Json

namespace Rewrite

/-- Reads a value and writes what has been read. -/
def of (read : Json → Option β) (write : β → Json) : Rewrite :=
  fun value => (read value).map write

/-- What has been rewritten is rewritten to itself, from its canonical form. No null is written for a
value that is none. -/
structure Stable (rewrite : Rewrite) : Prop where
  again : ∀ {value written : Json}, value.IsCanonical → rewrite value = some written →
    rewrite written.canonical = some written
  shown : ∀ {value written : Json}, value.IsCanonical → value.isNull = false →
    rewrite value = some written → written.isNull = false

end Rewrite

/-- What is written under a name of a record, if anything, for what is given under it, if that can be
read. -/
abbrev Slot := Option Json → Option (Option Json)

namespace Slot

/-- The same is written in any case. -/
def constant (value : Json) : Slot := fun _ => some (some value)

/-- A value that has to be there. -/
def required (rewrite : Rewrite) : Slot
  | none => none
  | some value => (rewrite value).map some

/-- A value that may be missing or null. -/
def optional (rewrite : Rewrite) : Slot
  | none => some none
  | some value => if value.isNull then some none else (rewrite value).map some

/-- What has been written stays as it is. -/
def Stable (slot : Slot) : Prop :=
  ∀ {given written : Option Json}, IsCanonicalAt given → slot given = some written →
    slot (written.map Json.canonical) = some written

variable {rewrite : Rewrite}

/-- A constant writes the same whatever it is given, also when it is given what it has written. -/
theorem stable_constant (value : Json) : (constant value).Stable := fun _ given => given

theorem stable_required (stable : rewrite.Stable) : (required rewrite).Stable := by
  intro given written canonical taken
  cases given with
  | none => cases taken
  | some value =>
    obtain ⟨w, rewritten, rfl⟩ := Option.map_eq_some_iff.mp taken
    rw [Option.map_some, required, stable.again (canonical value rfl) rewritten, Option.map_some]

/-- An optional slot is stable if its rewriting is; nothing is written for nothing. -/
theorem stable_optional (stable : rewrite.Stable) : (optional rewrite).Stable := by
  intro given written canonical taken
  cases given with
  | none =>
    cases taken
    rfl
  | some value =>
    rw [optional] at taken
    split at taken
    · cases taken
      rfl
    · rename_i shown
      obtain ⟨w, rewritten, rfl⟩ := Option.map_eq_some_iff.mp taken
      have shown' := stable.shown (canonical value rfl) (Bool.not_eq_true _ ▸ shown) rewritten
      rw [Option.map_some, optional, Json.isNull_canonical, shown',
        stable.again (canonical value rfl) rewritten]
      rfl

end Slot

/-- What the slots write for what is given under their names. -/
def gather (look : String → Option Json) : List (String × Slot) → Option (List (String × Json))
  | [] => some []
  | (name, slot) :: rest =>
    (slot (look name)).bind fun written =>
      (gather look rest).map fun others => Json.member name written ++ others

section Gather

variable {look look' : String → Option Json} {slots : List (String × Slot)}
  {members : List (String × Json)}

/-- What is written for some slots is written for the first and for the rest. -/
theorem exists_of_gather_cons {entry : String × Slot}
    (gathered : gather look (entry :: slots) = some members) :
    ∃ written others, entry.2 (look entry.1) = some written ∧ gather look slots = some others ∧
      members = Json.member entry.1 written ++ others := by
  obtain ⟨written, writes, gathered⟩ := Option.bind_eq_some_iff.mp gathered
  obtain ⟨others, later, same⟩ := Option.map_eq_some_iff.mp gathered
  exact ⟨written, others, writes, later, same.symm⟩

/-- What is gathered depends on what each slot makes of what is found for it, and on nothing else. -/
theorem gather_congr (same : ∀ entry ∈ slots, entry.2 (look entry.1) = entry.2 (look' entry.1)) :
    gather look slots = gather look' slots := by
  induction slots with
  | nil => rfl
  | cons entry rest ih =>
    rw [gather, gather, same entry List.mem_cons_self,
      ih fun entry mem => same entry (List.mem_cons_of_mem _ mem)]

theorem isSome_gather : (gather look slots).isSome = true ↔
    ∀ entry ∈ slots, (entry.2 (look entry.1)).isSome = true := by
  induction slots with
  | nil => simp [gather]
  | cons entry rest ih =>
    rw [List.forall_mem_cons, ← ih, gather]
    cases entry.2 (look entry.1) with
    | none => simp
    | some written => simp

/-- Only names of slots are written. -/
theorem mem_of_gather (gathered : gather look slots = some members) :
    ∀ entry ∈ members, entry.1 ∈ slots.map Prod.fst := by
  induction slots generalizing members with
  | nil =>
    cases gathered
    exact List.forall_mem_nil _
  | cons entry rest ih =>
    obtain ⟨written, others, -, after, rfl⟩ := exists_of_gather_cons gathered
    intro member mem
    rcases List.mem_append.mp mem with first | later
    · cases written with
      | none => cases first
      | some w =>
        cases List.mem_singleton.mp first
        exact List.mem_cons_self
    · exact List.mem_cons_of_mem _ (ih after member later)

/-- Each name is written once at most. -/
theorem nodup_of_gather (nodup : (slots.map Prod.fst).Nodup)
    (gathered : gather look slots = some members) : (members.map Prod.fst).Nodup := by
  induction slots generalizing members with
  | nil =>
    cases gathered
    exact List.nodup_nil
  | cons entry rest ih =>
    obtain ⟨written, others, -, after, rfl⟩ := exists_of_gather_cons gathered
    obtain ⟨new, nodup⟩ := List.nodup_cons.mp nodup
    have later := ih nodup after
    cases written with
    | none => exact later
    | some w =>
      refine List.nodup_cons.mpr ⟨fun mem => ?_, later⟩
      obtain ⟨member, mem, same⟩ := List.mem_map.mp mem
      exact new (same ▸ mem_of_gather after member mem)

/-- Under the name of a slot is what the slot writes. -/
theorem find?_of_gather (nodup : (slots.map Prod.fst).Nodup)
    (gathered : gather look slots = some members) {entry : String × Slot} (mem : entry ∈ slots) :
    entry.2 (look entry.1) = some (Keyed.find? entry.1 members) := by
  induction slots generalizing members with
  | nil => cases mem
  | cons first rest ih =>
    obtain ⟨written, others, writes, after, rfl⟩ := exists_of_gather_cons gathered
    obtain ⟨new, nodup⟩ := List.nodup_cons.mp nodup
    rcases List.mem_cons.mp mem with rfl | later
    · rw [writes]
      cases written with
      | some w => simp [Json.member, Keyed.find?]
      | none =>
        have missing : Keyed.find? entry.1 others = none := by
          apply Keyed.find?_of_not_mem
          intro mem
          obtain ⟨member, mem, same⟩ := List.mem_map.mp mem
          exact new (same ▸ mem_of_gather after member mem)
        simp [Json.member, missing]
    · have different : first.1 ≠ entry.1 := fun same =>
        new (same ▸ List.mem_map_of_mem later)
      rw [ih nodup after later]
      cases written with
      | some w => simp [Json.member, Keyed.find?, different]
      | none => rfl

end Gather

/-! ### Records -/

/-- How a record is rewritten: its slots, and the names of its fields in order and how many items it
may have if it is written as a list. -/
structure Record where
  slots : List (String × Slot)
  positions : List String := []
  takes : Nat → Bool := fun _ => false

namespace Record

/-- What is given under each name. -/
def look? (record : Record) : Json → Option (String → Option Json)
  | .object members => some fun name => Keyed.find? name members
  | .array items =>
    if record.takes items.length then some fun name => Keyed.find? name (record.positions.zip items)
    else none
  | _ => none

/-- Rewrites a record. -/
def rewrite (record : Record) : Rewrite := fun value =>
  (record.look? value).bind fun look => (gather look record.slots).map .object

/-- The slots have different names, and each is stable. -/
structure Stable (record : Record) : Prop where
  nodup : (record.slots.map Prod.fst).Nodup
  slots : ∀ entry ∈ record.slots, entry.2.Stable

variable {record : Record}

theorem rewrite_object (members : List (String × Json)) : record.rewrite (.object members) =
    (gather (fun name => (Json.object members).find? name) record.slots).map .object := rfl

/-- A record writes an object, whose members are gathered from what the value shows. -/
theorem exists_of_rewrite {value written : Json} (rewritten : record.rewrite value = some written) :
    ∃ look members, record.look? value = some look ∧ gather look record.slots = some members ∧
      written = .object members := by
  obtain ⟨look, found, rewritten⟩ := Option.bind_eq_some_iff.mp rewritten
  obtain ⟨members, gathered, rfl⟩ := Option.map_eq_some_iff.mp rewritten
  exact ⟨look, members, found, gathered, rfl⟩

/-- What is given under a name has ascending keys if the whole value has. -/
theorem isCanonicalAt_look {value : Json} (canonical : value.IsCanonical)
    {look : String → Option Json} (found : record.look? value = some look) (name : String) :
    IsCanonicalAt (look name) := by
  cases value with
  | null | bool | number | text => cases found
  | object members =>
    cases found
    exact canonical.findAt name
  | array items =>
    rw [look?] at found
    split at found
    · cases found
      intro v taken
      have mem : v ∈ items := (List.of_mem_zip (Keyed.mem_of_find? taken)).2
      exact Json.areCanonical_iff.mp canonical v mem
    · cases found

/-- A record that has been rewritten stays as it is. -/
theorem Stable.rewrite (stable : record.Stable) : record.rewrite.Stable where
  again {value written} canonical rewritten := by
    obtain ⟨look, members, found, gathered, rfl⟩ := exists_of_rewrite rewritten
    have once := nodup_of_gather stable.nodup gathered
    have same : gather (fun name => (Json.object members).canonical.find? name) record.slots =
        gather look record.slots := by
      apply gather_congr
      intro entry mem
      have writes := find?_of_gather stable.nodup gathered mem
      rw [Json.find?_canonical once, writes]
      exact stable.slots entry mem (isCanonicalAt_look canonical found entry.1) writes
    rw [Json.canonical, rewrite_object]
    change (gather (fun name => (Json.object members).canonical.find? name) record.slots).map _ = _
    rw [same, gathered, Option.map_some]
  shown {value written} _ _ rewritten := by
    obtain ⟨look, members, found, gathered, rfl⟩ := exists_of_rewrite rewritten
    rfl

end Record

end VirtLifecycle
