/-
Module: VirtLifecycle.Proofs.Codec.Nulls
Purpose: Where what is read back is written as it was. Reading back loses optional parts that are there but
  null, and whatever holds one of them is written differently afterwards. All else is written as before: at
  each path whose value holds no null, the same value is found again.
Main exports: Json.HoldsNull, Codec.full_of_noNull, Codec.at?_write_reread
-/
import VirtLifecycle.Proofs.Codec.ReadsBack
import VirtLifecycle.Proofs.Json.MergePatch

namespace VirtLifecycle

open Json (at?)

/-- A null is the value or stands somewhere in it. -/
inductive Json.HoldsNull : Json → Prop where
  | null : HoldsNull null
  | item {items : List Json} {item : Json} (mem : item ∈ items) (holds : HoldsNull item) :
      HoldsNull (array items)
  | member {members : List (String × Json)} {entry : String × Json} (mem : entry ∈ members)
      (holds : HoldsNull entry.2) : HoldsNull (object members)

namespace Json

/-- What is found under a key of a value without nulls holds none. -/
theorem noNull_of_find? {value member : Json} {key : String} (noNull : ¬ value.HoldsNull)
    (found : value.find? key = some member) : ¬ member.HoldsNull := by
  intro holds
  cases value with
  | object members => exact noNull (.member (Keyed.mem_of_find? found) holds)
  | null | bool | number | text | array => cases found

/-- A list without nulls has items without nulls. -/
theorem noNull_of_mem {values : List Json} (noNull : ¬ (array values).canonical.HoldsNull) {value : Json}
    (mem : value ∈ values) : ¬ value.canonical.HoldsNull := by
  intro holds
  rw [Json.Rearranges.canonical.array] at noNull
  exact noNull (.item (List.mem_map_of_mem mem) holds)

theorem isNull_of_noNull {value : Json} (noNull : ¬ value.canonical.HoldsNull) : value.isNull = false := by
  cases value with
  | null => exact absurd .null noNull
  | bool | number | text | array | object => rfl

end Json

namespace Codec

variable {β P : Type} {names : List String}

/-- What is found among the members of a record is what its first part or one of the others has written. -/
theorem Parts.find?_write_cons (name : String) (part : Part β) (rest : Parts names P) (new : name ∉ names)
    (p : β × P) (key : String) :
    Keyed.find? key ((Parts.cons name part rest new).write p) =
      if key = name then part.write p.1 else Keyed.find? key (rest.write p.2) := by
  have outside : Keyed.find? name (rest.write p.2) = none :=
    Keyed.find?_of_not_mem fun mem => new (rest.mem_names p.2 name mem)
  rw [Parts.write]
  cases part.write p.1 with
  | none =>
    split
    · rename_i same
      rw [same]
      exact outside
    · rfl
  | some value =>
    rw [Json.member, List.singleton_append, Keyed.find?]
    by_cases same : key = name
    · rw [if_pos same, if_pos same.symm]
    · rw [if_neg same, if_neg fun here => same here.symm]

/-! ### Values that are written without nulls -/

mutual

/-- A value that is written without nulls has no optional part that is there but null. -/
theorem full_of_noNull : {β : Type} → (codec : Codec β) → {b : β} →
    ¬ (codec.write b).canonical.HoldsNull → codec.full b = true
  | _, .text, _, _ | _, .bool, _, _ | _, .int32, _, _ | _, .int64, _, _ | _, .timestamp, _, _
  | _, .wholeTimestamp, _, _ | _, .freeform, _, _ | _, .texts, _, _ => rfl
  | _, .listOf items, _, noNull =>
    List.all_eq_true.mpr fun _ mem =>
      items.full_of_noNull (Json.noNull_of_mem noNull (List.mem_map_of_mem mem))
  | _, .record _ parts shape, r, noNull => by
    have found := Json.find?_canonical (parts.nodup_write (shape.take r))
    refine parts.full_of_noNull fun key value written => ?_
    apply Json.noNull_of_find? noNull
    rw [write, found key, written]
    rfl

/-- A part that writes nothing with nulls is full, too. -/
theorem Part.full_of_noNull : {β : Type} → (part : Part β) → {b : β} →
    (∀ value, part.write b = some value → ¬ value.canonical.HoldsNull) → part.full b = true
  | _, .required codec, _, noNull => codec.full_of_noNull (noNull _ rfl)
  | _, .optional _, none, _ => rfl
  | _, .optional codec, some b, noNull => by
    have each := noNull _ rfl
    rw [Part.full, Option.all_some, Json.isNull_of_noNull each, codec.full_of_noNull each]
    rfl
  | _, .listed _, [], _ => rfl
  | _, .listed codec, first :: rest, noNull =>
    List.all_eq_true.mpr fun _ mem =>
      codec.full_of_noNull (Json.noNull_of_mem (noNull _ rfl) (List.mem_map_of_mem mem))
  | _, .flag, _, _ | _, .word, _, _ | _, .constant _, _, _ => rfl

theorem Parts.full_of_noNull : {names : List String} → {P : Type} → (parts : Parts names P) → {p : P} →
    (∀ key value, Keyed.find? key (parts.write p) = some value → ¬ value.canonical.HoldsNull) →
    parts.full p = true
  | _, _, .nil, _, _ => rfl
  | _, _, .cons name part rest new, p, noNull => by
    have first : part.full p.1 = true := by
      refine part.full_of_noNull fun value written => noNull name value ?_
      rw [Parts.find?_write_cons, if_pos rfl, written]
    have others : rest.full p.2 = true := by
      refine rest.full_of_noNull fun key value written => noNull key value ?_
      have different : key ≠ name := by
        rintro rfl
        exact new (rest.mem_names p.2 key (List.mem_map.mpr ⟨_, Keyed.mem_of_find? written, rfl⟩))
      rw [Parts.find?_write_cons, if_neg different, written]
    rw [Parts.full, first, others, Bool.and_self]

end

/-! ### Paths to values without nulls -/

/-- What is at a path below a record is below one of its parts. -/
theorem at?_write_record {ρ : Type} (form : Form) (parts : Parts names P) (shape : Shape ρ P) (r : ρ)
    (key : String) (rest : List String) : at? (key :: rest) ((record form parts shape).write r).canonical =
      (Keyed.find? key (parts.write (shape.take r))).bind fun member => at? rest member.canonical := by
  rw [write, at?, Json.find?_canonical (parts.nodup_write _), Option.bind_map]
  rfl

mutual

/-- **What is read back is written as it was, but for nulls.** A value without nulls that is found at a path
of what is written is found there again once that has been read and written anew. -/
theorem at?_write_reread : {β : Type} → (codec : Codec β) → {b : β} → {path : List String} → {value : Json} →
    at? path (codec.write b).canonical = some value → ¬ value.HoldsNull →
    at? path (codec.write (codec.reread b)).canonical = some value
  | _, codec, _, [], _, there, noNull => by
    cases there
    rw [codec.write_reread (codec.full_of_noNull noNull)]
    rfl
  | _, .text, _, _ :: _, _, there, _ | _, .bool, _, _ :: _, _, there, _ | _, .int32, _, _ :: _, _, there, _
  | _, .int64, _, _ :: _, _, there, _ | _, .timestamp, _, _ :: _, _, there, _
  | _, .freeform, _, _ :: _, _, there, _ | _, .texts, _, _ :: _, _, there, _ => there
  | _, .wholeTimestamp, _, _ :: _, _, there, _ | _, .listOf _, _, _ :: _, _, there, _ => by cases there
  | _, .record form parts shape, r, key :: rest, _, there, noNull => by
    rw [at?_write_record] at there ⊢
    rw [reread, shape.take_make]
    exact parts.at?_write_reread there noNull

/-- The same of a part: what it loses is a null, and a null has nothing below it. -/
theorem Part.at?_write_reread : {β : Type} → (part : Part β) → {b : β} → {path : List String} →
    {value : Json} → ((part.write b).bind fun member => at? path member.canonical) = some value →
    ¬ value.HoldsNull →
    ((part.write (part.reread b)).bind fun member => at? path member.canonical) = some value
  | _, .required codec, _, _, _, there, noNull => codec.at?_write_reread there noNull
  | _, .optional _, none, _, _, there, _ => there
  | _, .optional codec, some b, path, _, there, noNull => by
    have member : at? path (codec.write b).canonical = some _ := there
    cases null : (codec.write b).isNull with
    | true =>
      cases written : codec.write b with
      | null =>
        rw [written] at member
        cases path with
        | nil =>
          cases member
          exact absurd .null noNull
        | cons => cases member
      | bool | number | text | array | object =>
        rw [written] at null
        cases null
    | false =>
      rw [Part.reread, Option.bind_some, null]
      exact codec.at?_write_reread member noNull
  | _, .listed _, [], _, _, there, _ => there
  | _, .listed codec, first :: rest, [], _, there, noNull => by
    cases there
    have full : (Part.listed codec).full (first :: rest) = true := by
      refine Part.full_of_noNull _ fun value written => ?_
      cases written
      exact noNull
    rw [Part.write_reread _ full]
    rfl
  | _, .listed _, _ :: _, _ :: _, _, there, _ => by cases there
  | _, .flag, _, _, _, there, _ | _, .word, _, _, _, there, _ | _, .constant _, _, _, _, there, _ => there

/-- Below the parts of a record the same holds, each key being that of one part. -/
theorem Parts.at?_write_reread : {names : List String} → {P : Type} → (parts : Parts names P) → {p : P} →
    {key : String} → {path : List String} → {value : Json} →
    ((Keyed.find? key (parts.write p)).bind fun member => at? path member.canonical) = some value →
    ¬ value.HoldsNull →
    ((Keyed.find? key (parts.write (parts.reread p))).bind fun member => at? path member.canonical) =
      some value
  | _, _, .nil, _, _, _, _, there, _ => there
  | _, _, .cons name part rest new, p, key, _, _, there, noNull => by
    rw [Parts.find?_write_cons] at there ⊢
    split at there
    · rename_i here
      rw [if_pos here]
      exact part.at?_write_reread there noNull
    · rename_i later
      rw [if_neg later]
      exact rest.at?_write_reread there noNull

end

end Codec

end VirtLifecycle
