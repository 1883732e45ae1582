/-
Module: VirtLifecycle.Proofs.ResourceId
Purpose: The written forms of ids. The texts with one slash and something on either side of it are read, and
  are the written forms of what is read from them. An id is read from its own written form exactly if both
  of its parts are there and neither holds a slash; no id is ever read as another one.
Main exports: ResourceId.IsLegible, ResourceId.IsWritten, ResourceId.ofText?_eq_some_iff,
  ResourceId.ofText?_text, ResourceId.eq_of_ofText?_text, ResourceId.ofText_text_of_not_isLegible,
  ResourceId.read_exactly_from_written_forms
-/
import Mathlib.Data.List.TakeWhile
import VirtLifecycle.Error
import VirtLifecycle.Proofs.Decimal.Digits

namespace VirtLifecycle.ResourceId

/-- There is no slash in the namespace and none in the name. -/
structure IsUnslashed (id : ResourceId) : Prop where
  space : '/' ∉ id.space.toList
  name : '/' ∉ id.name.toList

/-- The id has both parts, and none of them has a slash. -/
structure IsLegible (id : ResourceId) : Prop extends id.IsUnslashed where
  spaced : id.space ≠ ""
  named : id.name ≠ ""

/-- The text has one slash, and something on either side of it. -/
structure IsWritten (s : String) : Prop where
  slashes : s.toList.count '/' = 1
  sides : ∀ front back, s.toList = front ++ '/' :: back → front ≠ [] ∧ back ≠ []

theorem toList_text (id : ResourceId) : id.text.toList = id.space.toList ++ '/' :: id.name.toList := by
  rw [text, String.toList_append, String.toList_append, List.append_assoc]
  rfl

/-- A text is cut at its first slash. -/
theorem cut_slash {space : List Char} (unslashed : '/' ∉ space) (rest : List Char) :
    (space ++ '/' :: rest).takeWhile (· != '/') = space ∧
      (space ++ '/' :: rest).dropWhile (· != '/') = '/' :: rest := by
  apply takeWhile_append_stop
  · intro c mem
    rw [bne_iff_ne]
    rintro rfl
    exact unslashed mem
  · rintro c ⟨⟩
    rfl

/-- Exactly the legible ids are read, and from their written forms. -/
theorem ofText?_eq_some_iff {s : String} {id : ResourceId} :
    ofText? s = some id ↔ s = id.text ∧ id.IsLegible := by
  constructor
  · intro read
    have whole : s.toList.takeWhile (· != '/') ++ s.toList.dropWhile (· != '/') = s.toList :=
      List.takeWhile_append_dropWhile
    have unslashed : '/' ∉ s.toList.takeWhile (· != '/') := fun mem => by
      simpa using List.mem_takeWhile_imp mem
    have stop := List.head?_dropWhile_not (· != '/') s.toList
    simp only [ofText?] at read
    generalize s.toList.takeWhile (· != '/') = space at read whole unslashed
    generalize s.toList.dropWhile (· != '/') = rest at read whole stop
    cases rest with
    | nil => cases read
    | cons c name =>
      obtain rfl : c = '/' := by simpa using stop
      simp only [Option.ite_none_left_eq_some, not_or, Option.some.injEq] at read
      obtain ⟨⟨spaced, named, unslashedName⟩, rfl⟩ := read
      refine ⟨?_, ⟨?_, ?_⟩, ?_, ?_⟩
      · apply String.toList_injective
        rw [toList_text, String.toList_ofList, String.toList_ofList, whole]
      · rwa [String.toList_ofList]
      · rw [String.toList_ofList]
        simpa using unslashedName
      · simpa using spaced
      · simpa using named
  · rintro ⟨rfl, legible⟩
    obtain ⟨space, rest⟩ := cut_slash legible.space id.name.toList
    have spaced : id.space.toList.isEmpty = false := by simpa using legible.spaced
    have named : id.name.toList.isEmpty = false := by simpa using legible.named
    simp [ofText?, toList_text, space, rest, spaced, named, legible.name]

/-- An id is read back from its written form just if it is legible: neither part is empty, and none has a
slash in it. -/
theorem ofText?_text (id : ResourceId) : ofText? id.text = some id ↔ id.IsLegible := by
  rw [ofText?_eq_some_iff]
  exact and_iff_right rfl

/-- Two lists with a slash are the same if they are the same in front of it and after it. -/
theorem append_slash_inj {space space' : List Char} (unslashed : '/' ∉ space)
    (unslashed' : '/' ∉ space') (rest rest' : List Char) :
    space ++ '/' :: rest = space' ++ '/' :: rest' ↔ space = space' ∧ rest = rest' := by
  constructor
  · intro same
    have front := congrArg (List.takeWhile (· != '/')) same
    have back := congrArg (List.dropWhile (· != '/')) same
    rw [(cut_slash unslashed _).1, (cut_slash unslashed' _).1] at front
    rw [(cut_slash unslashed _).2, (cut_slash unslashed' _).2] at back
    exact ⟨front, (List.cons.inj back).2⟩
  · rintro ⟨rfl, rfl⟩
    rfl

/-- Ids whose namespaces have no slash are told apart by their written forms. -/
theorem eq_of_text_eq {id other : ResourceId} (unslashed : '/' ∉ id.space.toList)
    (unslashed' : '/' ∉ other.space.toList) (same : id.text = other.text) : id = other := by
  have chars := congrArg String.toList same
  rw [toList_text, toList_text, append_slash_inj unslashed unslashed'] at chars
  obtain ⟨space, name⟩ := chars
  cases id
  cases other
  exact congr (congrArg mk (String.toList_injective space)) (String.toList_injective name)

/-- What is read from the written form of an id is that id and no other. -/
theorem eq_of_ofText?_text {id other : ResourceId} (read : ofText? id.text = some other) :
    other = id := by
  obtain ⟨same, legible⟩ := ofText?_eq_some_iff.mp read
  -- the one slash that is read is the one that was written
  have slashes := congrArg (fun s => s.toList.count '/') same
  have none := List.count_eq_zero.mpr legible.space
  have none' := List.count_eq_zero.mpr legible.name
  simp only [toList_text, List.count_append, List.count_cons_self] at slashes
  have unslashed : '/' ∉ id.space.toList := List.count_eq_zero.mp (by omega)
  exact (eq_of_text_eq unslashed legible.space same).symm

theorem ofText_eq_ok_iff {s : String} {id : ResourceId} : ofText s = .ok id ↔ ofText? s = some id := by
  unfold ofText
  cases ofText? s with
  | none => exact iff_of_false nofun nofun
  | some read => rw [Except.ok.injEq, Option.some.injEq]

/-- An id that cannot be read from its written form makes that malformed. -/
theorem ofText_text_of_not_isLegible {id : ResourceId} (illegible : ¬ id.IsLegible) :
    ofText id.text = .error (.invalidId (.malformed id.text)) := by
  unfold ofText
  cases read : ofText? id.text with
  | none => rfl
  | some other =>
    obtain rfl := eq_of_ofText?_text read
    exact absurd ((ofText?_text other).mp read) illegible

/-! ### Which texts are read -/

/-- The slash between the parts of an id is the only one exactly if the parts have none. -/
theorem count_slash_text (id : ResourceId) : id.text.toList.count '/' = 1 ↔ id.IsUnslashed := by
  rw [toList_text, List.count_append, List.count_cons_self]
  constructor
  · intro one
    exact ⟨List.count_eq_zero.mp (by omega), List.count_eq_zero.mp (by omega)⟩
  · rintro ⟨space, name⟩
    rw [List.count_eq_zero.mpr space, List.count_eq_zero.mpr name]

theorem isWritten_text (id : ResourceId) : IsWritten id.text ↔ id.IsLegible := by
  constructor
  · rintro ⟨slashes, sides⟩
    obtain ⟨spaced, named⟩ := sides _ _ id.toList_text
    refine ⟨id.count_slash_text.mp slashes, ?_, ?_⟩
    · exact fun empty => spaced (String.toList_eq_nil_iff.mpr empty)
    · exact fun empty => named (String.toList_eq_nil_iff.mpr empty)
  · intro legible
    refine ⟨id.count_slash_text.mpr legible.toIsUnslashed, fun front back cut => ?_⟩
    -- there is no other place to cut than between the parts
    have slashes := id.count_slash_text.mpr legible.toIsUnslashed
    rw [cut, List.count_append, List.count_cons_self] at slashes
    have unslashed : '/' ∉ front := List.count_eq_zero.mp (by omega)
    rw [toList_text, append_slash_inj legible.space unslashed] at cut
    obtain ⟨rfl, rfl⟩ := cut
    exact ⟨fun empty => legible.spaced (String.toList_eq_nil_iff.mp empty),
      fun empty => legible.named (String.toList_eq_nil_iff.mp empty)⟩

/-- A text with a slash is the written form of some id. -/
theorem exists_eq_text {s : String} (slash : '/' ∈ s.toList) : ∃ id : ResourceId, s = id.text := by
  obtain ⟨front, back, cut⟩ := List.append_of_mem slash
  refine ⟨⟨String.ofList front, String.ofList back⟩, String.toList_injective ?_⟩
  rw [toList_text, String.toList_ofList, String.toList_ofList, cut]

theorem exists_ofText_iff {s : String} : (∃ id, ofText s = .ok id) ↔ IsWritten s := by
  simp only [ofText_eq_ok_iff, ofText?_eq_some_iff]
  constructor
  · rintro ⟨id, rfl, legible⟩
    exact id.isWritten_text.mpr legible
  · intro written
    have slash : '/' ∈ s.toList := List.count_pos_iff.mp (by rw [written.slashes]; exact Nat.one_pos)
    obtain ⟨id, rfl⟩ := exists_eq_text slash
    exact ⟨id, rfl, id.isWritten_text.mp written⟩

/-- **Ids are read exactly from their written forms.** A text is read exactly if it has one slash and
something on either side of it; what is read from it is written as that text, and any other text is
malformed. An id is read from its own written form exactly if both of its parts are there and have no slash,
and its written form is malformed otherwise. Ids that are read are told apart by their written forms. -/
theorem read_exactly_from_written_forms :
    (∀ s, (∃ id, ofText s = .ok id) ↔ IsWritten s) ∧
      (∀ s id, ofText s = .ok id → id.text = s) ∧
      (∀ s, ¬ IsWritten s → ofText s = .error (.invalidId (.malformed s))) ∧
      (∀ id : ResourceId, (ofText id.text = .ok id ↔ id.IsLegible) ∧
        (¬ id.IsLegible → ofText id.text = .error (.invalidId (.malformed id.text)))) ∧
      ∀ s t id other, ofText s = .ok id → ofText t = .ok other → id.text = other.text → id = other := by
  have writes (s : String) (id : ResourceId) (read : ofText s = .ok id) : id.text = s :=
    (ofText?_eq_some_iff.mp (ofText_eq_ok_iff.mp read)).1.symm
  refine ⟨fun s => exists_ofText_iff, writes, fun s unwritten => ?_, fun id => ⟨?_, ?_⟩, ?_⟩
  · cases read : ofText? s with
    | none => rw [ofText, read]
    | some id => exact absurd (exists_ofText_iff.mp ⟨id, ofText_eq_ok_iff.mpr read⟩) unwritten
  · exact ofText_eq_ok_iff.trans (ofText?_text id)
  · exact ofText_text_of_not_isLegible
  · intro s t id other read read' same
    rw [writes s id read, writes t other read'] at same
    subst same
    exact Except.ok.inj (read.symm.trans read')

/-- A machine, the same machine in a text that is read again, and one with a slash in its name. -/
theorem read_exactly_from_written_forms_of_machines :
    let machine : ResourceId := ⟨"vms", "a"⟩
    let slashed : ResourceId := ⟨"vms", "a/b"⟩
    ofText "vms/a" = .ok machine ∧ IsWritten "vms/a" ∧ machine.text = "vms/a" ∧ machine.IsLegible ∧
      (∀ other, ofText "vms/a" = .ok other → machine = other) ∧
      ¬ IsWritten "vms/a/b" ∧ ofText "vms/a/b" = .error (.invalidId (.malformed "vms/a/b")) ∧
      ¬ slashed.IsLegible ∧ ofText slashed.text = .error (.invalidId (.malformed slashed.text)) := by
  intro machine slashed
  obtain ⟨reads, writes, malformed, own, apart⟩ := read_exactly_from_written_forms
  have read : ofText "vms/a" = .ok machine := rfl
  have illegible : ¬ slashed.IsLegible := fun legible => absurd legible.name (by decide)
  have unwritten : ¬ IsWritten "vms/a/b" := fun written => absurd written.slashes (by decide)
  refine ⟨read, (reads "vms/a").mp ⟨machine, read⟩, writes _ _ read, (own machine).1.mp read,
    fun other read' => ?_, unwritten, malformed _ unwritten, illegible, (own slashed).2 illegible⟩
  exact apart _ _ machine other read read' ((writes _ _ read).trans (writes _ _ read').symm)

end VirtLifecycle.ResourceId
