/-
Module: VirtLifecycle.Proofs.Codec.ReadsBack
Purpose: What is written is read again. The laws are stated once for all descriptions of records and proved
  by recursion over them: a value, a part and the parts of a record together. Any value that is written can
  be read again, and is the same but for two things: timestamps that are written in whole seconds lose their
  fractions, and optional free-form data that is null is read as missing. The second never happens to values
  that have been read, so these lose no more than fractions.
Main exports: Codec.reread, Codec.full, Codec.whole, Codec.read_write, Codec.full_of_read,
  Codec.reread_eq_whole, Codec.write_whole, Codec.reread_reread, Codec.isNull_write_of_read
-/
import VirtLifecycle.Codec
import VirtLifecycle.Proofs.Document
import VirtLifecycle.Proofs.Time.Timestamp

namespace VirtLifecycle.Codec

open Document

/-! ### What is read again -/

mutual

/-- What is read from what is written for a value. -/
def reread {β : Type} : Codec β → β → β
  | .wholeTimestamp, t => t.wholeSeconds
  | .listOf items, values => values.map items.reread
  | .record _ parts shape, r => shape.make (parts.reread (shape.take r))
  | .text, s => s
  | .bool, b => b
  | .int32, n => n
  | .int64, n => n
  | .timestamp, t => t
  | .freeform, data => data
  | .texts, map => map

/-- What is read for a part. A null that stands for an optional value is read as if it were missing. -/
def Part.reread {β : Type} : Part β → β → β
  | .required codec, value => codec.reread value
  | .optional codec, value => value.bind fun b => if (codec.write b).isNull then none else some (codec.reread b)
  | .listed codec, values => values.map codec.reread
  | .flag, b => b
  | .word, s => s
  | .constant _, _ => ()

def Parts.reread {names : List String} {P : Type} : Parts names P → P → P
  | .nil, _ => ()
  | .cons _ part rest _, p => (part.reread p.1, rest.reread p.2)

end

mutual

/-- No optional part of the value is there but null. -/
def full {β : Type} : Codec β → β → Bool
  | .listOf items, values => values.all items.full
  | .record _ parts shape, r => parts.full (shape.take r)
  | _, _ => true

def Part.full {β : Type} : Part β → β → Bool
  | .required codec, value => codec.full value
  | .optional codec, value => value.all fun b => !(codec.write b).isNull && codec.full b
  | .listed codec, values => values.all codec.full
  | _, _ => true

def Parts.full {names : List String} {P : Type} : Parts names P → P → Bool
  | .nil, _ => true
  | .cons _ part rest _, p => part.full p.1 && rest.full p.2

end

mutual

/-- The value with those timestamps in whole seconds that are written so. -/
def whole {β : Type} : Codec β → β → β
  | .wholeTimestamp, t => t.wholeSeconds
  | .listOf items, values => values.map items.whole
  | .record _ parts shape, r => shape.make (parts.whole (shape.take r))
  | .text, s => s
  | .bool, b => b
  | .int32, n => n
  | .int64, n => n
  | .timestamp, t => t
  | .freeform, data => data
  | .texts, map => map

def Part.whole {β : Type} : Part β → β → β
  | .required codec, value => codec.whole value
  | .optional codec, value => value.map codec.whole
  | .listed codec, values => values.map codec.whole
  | .flag, b => b
  | .word, s => s
  | .constant _, _ => ()

def Parts.whole {names : List String} {P : Type} : Parts names P → P → P
  | .nil, _ => ()
  | .cons _ part rest _, p => (part.whole p.1, rest.whole p.2)

end

/-! ### The members that are written -/

variable {β P : Type} {names : List String}

/-- What is written for a record stands under the names of its parts. -/
theorem Parts.mem_names : {names : List String} → {P : Type} → (parts : Parts names P) → (p : P) →
    ∀ name ∈ (parts.write p).map Prod.fst, name ∈ names
  | _, _, .nil, _ => List.forall_mem_nil _
  | _, _, .cons name part rest _, p => by
    intro other mem
    rw [Parts.write, List.map_append, List.mem_append] at mem
    rcases mem with here | later
    · cases written : part.write p.1 with
      | none =>
        rw [written] at here
        cases here
      | some value =>
        rw [written] at here
        cases List.mem_singleton.mp here
        exact List.mem_cons_self
    · exact List.mem_cons_of_mem _ (rest.mem_names p.2 other later)

/-- Each name stands once at most. -/
theorem Parts.nodup_write : {names : List String} → {P : Type} → (parts : Parts names P) → (p : P) →
    ((parts.write p).map Prod.fst).Nodup
  | _, _, .nil, _ => List.nodup_nil
  | _, _, .cons name part rest new, p => by
    have later := rest.nodup_write p.2
    rw [Parts.write]
    cases part.write p.1 with
    | none => exact later
    | some value => exact List.nodup_cons.mpr ⟨fun mem => new (rest.mem_names p.2 name mem), later⟩

/-- Nothing is written under names of no part. -/
theorem Parts.all_write_of_new (parts : Parts names P) (p : P) {name : String} (new : name ∉ names) :
    (Fields.mk (parts.write p)).all name = [] := by
  rw [Fields.all_eq_toList (parts.nodup_write p),
    Keyed.find?_of_not_mem fun mem => new (parts.mem_names p name mem)]
  rfl

/-- Under the name of the first part stands what is written for it. -/
theorem Parts.all_write_cons (name : String) (part : Part β) (rest : Parts names P) (new : name ∉ names)
    (p : β × P) : (Fields.mk ((Parts.cons name part rest new).write p)).all name = (part.write p.1).toList := by
  rw [Parts.write, Fields.all_append, Fields.all_member, if_pos rfl, rest.all_write_of_new p.2 new,
    List.append_nil]

/-- Under the names of the others stands what is written for them. -/
theorem Parts.all_write_rest (name : String) (part : Part β) (rest : Parts names P) (new : name ∉ names)
    (p : β × P) {other : String} (later : other ∈ names) :
    (Fields.mk ((Parts.cons name part rest new).write p)).all other =
      (Fields.mk (rest.write p.2)).all other := by
  have different : name ≠ other := fun same => new (same ▸ later)
  rw [Parts.write, Fields.all_append, Fields.all_member, if_neg different, List.nil_append]

/-- The fields of a record are among the names of its parts. -/
theorem Parts.fieldNames_subset : {names : List String} → {P : Type} → (parts : Parts names P) →
    parts.fieldNames.Sublist names
  | _, _, .nil => .slnil
  | _, _, .cons name part rest _ => by
    rw [Parts.fieldNames]
    split
    · exact rest.fieldNames_subset.cons_cons name
    · exact rest.fieldNames_subset.cons name

/-- A record gives its fields in any of its forms as an object that has each name once. -/
theorem Form.fields?_object (form : Form) (fieldNames : List String) {members : List (String × Json)}
    (once : ∀ name, ((Fields.mk members).all name).length ≤ 1) :
    form.fields? fieldNames (Json.object members) = some ⟨members⟩ := by
  have unambiguous : (Fields.mk members).unambiguous fieldNames = true := by
    rw [Fields.unambiguous, List.all_eq_true]
    exact fun name _ => decide_eq_true (once name)
  cases form with
  | members => exact Fields.ofMembers?_object members
  | positional => exact Fields.ofRecord?_object unambiguous
  | complete => exact Fields.ofRecord?_object unambiguous

/-! ### Reading what is given -/

/-- What is read for a part, by what is given under its name. -/
def Part.readAt (part : Part β) (given : Option Json) : Option β :=
  part.read ⟨Json.member "" given⟩ ""

/-- What is read from a record for a part goes by the value that is given under its name, if any. -/
theorem Part.read_eq (part : Part β) {f : Fields Json} {name : String} {given : Option Json}
    (all : f.all name = given.toList) : part.read f name = part.readAt given := by
  have all' : (Fields.mk (Json.member "" given)).all "" = given.toList := by simp
  cases part <;> simp only [readAt, Part.read, Fields.required?, Fields.optional?, Fields.absentOr?,
    Fields.orDefault?, Fields.last?, all, all']

theorem Part.readAt_required (codec : Codec β) (value : Json) :
    (required codec).readAt (some value) = codec.read value := by
  cases read : codec.read value <;>
    simp [readAt, Part.read, Fields.required?, Fields.last?, read]

/-- Null stands for a missing value of an optional part. -/
theorem Part.readAt_optional (codec : Codec β) (value : Json) :
    (optional codec).readAt (some value) =
      if value.isNull then some none else (codec.read value).map some := by
  cases read : codec.read value <;> cases null : value.isNull <;>
    simp [readAt, Part.read, Fields.optional?, Fields.last?, isAbsent, read, null]

theorem Part.readAt_listed (codec : Codec β) (value : Json) :
    (listed codec).readAt (some value) = listOf? codec.read value := by
  cases read : listOf? codec.read value <;>
    simp [readAt, Part.read, Fields.orDefault?, Fields.last?, read]

/-! ### Reading what is written -/

theorem timestamp?_text (s : String) : timestamp? (Json.text s) = Timestamp.ofText? s := rfl

variable {g : Json → Json}

theorem mapM_read_write {items : Codec β} (values : List β)
    (each : ∀ b ∈ values, items.read (g (items.write b)) = some (items.reread b)) :
    ((values.map items.write).map g).mapM items.read = some (values.map items.reread) := by
  induction values with
  | nil => rfl
  | cons first rest ih =>
    rw [List.map_cons, List.map_cons, List.mapM_cons, each first List.mem_cons_self,
      ih fun b mem => each b (List.mem_cons_of_mem _ mem)]
    rfl

mutual

/-- **What is written is read again**, also from a document in another order. -/
theorem read_write (rearranges : Json.Rearranges g) : {β : Type} → (codec : Codec β) → (b : β) →
    codec.read (g (codec.write b)) = some (codec.reread b)
  | _, .text, s => by
    rw [write, rearranges.keeps (.text s) trivial]
    rfl
  | _, .bool, b => by
    rw [write, rearranges.keeps (.bool b) trivial]
    rfl
  | _, .int32, n => by
    rw [write, rearranges.keeps (.ofInt32 n) trivial]
    exact int32?_ofInt32 n
  | _, .int64, n => by
    rw [write, rearranges.keeps (.ofInt64 n) trivial]
    exact int64?_ofInt64 n
  | _, .timestamp, t => by
    rw [write, rearranges.keeps (.text t.text) trivial, read, timestamp?_text, t.ofText?_text, reread]
  | _, .wholeTimestamp, t => by
    rw [write, rearranges.keeps (.text t.wholeText) trivial, read, timestamp?_text, t.ofText?_wholeText,
      reread]
  | _, .freeform, data => by
    rw [write, rearranges.keeps data.value data.canonical]
    exact data.ofJson?_value
  | _, .texts, map => by
    rw [write, rearranges.keeps (.ofTexts map) (Json.isCanonical_ofTexts map)]
    exact texts?_ofTexts map
  | _, .listOf items, values => by
    rw [write, rearranges.array]
    exact mapM_read_write values fun b _ => items.read_write rearranges b
  | _, .record form parts shape, r => by
    have once := parts.nodup_write (shape.take r)
    obtain ⟨others, same, all⟩ := rearranges.object once
    have few : ∀ name, ((Fields.mk others).all name).length ≤ 1 := by
      intro name
      rw [all, List.length_map, Fields.all_eq_toList once]
      exact Option.length_toList_le
    rw [write, same, read, form.fields?_object _ few, Option.bind_eq_bind, Option.bind_some,
      parts.read_write rearranges (shape.take r) fun name _ => all name]
    rfl

/-- What a part has written is read back from its field as the part's own reread of it, also if the document
rearranges members. A part that writes nothing is read back from no field at all. -/
theorem Part.read_write (rearranges : Json.Rearranges g) : {β : Type} → (part : Part β) → (b : β) →
    part.readAt ((part.write b).map g) = some (part.reread b)
  | _, .required codec, b => by
    rw [Part.write, Option.map_some, Part.readAt_required]
    exact codec.read_write rearranges b
  | _, .optional codec, none => rfl
  | _, .optional codec, some b => by
    rw [Part.write, Option.map_some, Option.map_some, Part.readAt_optional, rearranges.isNull,
      codec.read_write rearranges b, Part.reread, Option.bind_some]
    split <;> rfl
  | _, .flag, b => by
    rw [Part.write, Option.map_some, rearranges.keeps (.bool b) trivial]
    rfl
  | _, .word, s => by
    rw [Part.write, Option.map_some, rearranges.keeps (.text s) trivial]
    rfl
  | _, .listed codec, [] => rfl
  | _, .listed codec, first :: rest => by
    rw [Part.write, List.isEmpty_cons, if_neg Bool.false_ne_true, Option.map_some, rearranges.array,
      Part.readAt_listed]
    exact mapM_read_write (first :: rest) fun b _ => codec.read_write rearranges b
  | _, .constant s, () => rfl

/-- What the parts of a record have written is read back from any fields that show, for every name of
theirs, what was written under it and nothing else. -/
theorem Parts.read_write (rearranges : Json.Rearranges g) : {names : List String} → {P : Type} →
    (parts : Parts names P) → (p : P) → {f : Fields Json} →
    (∀ name ∈ names, f.all name = ((Fields.mk (parts.write p)).all name).map g) →
    parts.read f = some (parts.reread p)
  | _, _, .nil, _, _, _ => rfl
  | _ :: names, _, .cons name part rest new, p, f, given => by
    have first : f.all name = ((part.write p.1).map g).toList := by
      rw [given name List.mem_cons_self, Parts.all_write_cons, Option.toList_map]
    have later : ∀ other ∈ names, f.all other = ((Fields.mk (rest.write p.2)).all other).map g := by
      intro other mem
      rw [given other (List.mem_cons_of_mem _ mem), Parts.all_write_rest name part rest new p mem]
    rw [Parts.read, part.read_eq first, part.read_write rearranges p.1, rest.read_write rearranges p.2 later]
    rfl

end

/-! ### Values that have been read -/

/-- A value that is not null is not written as null. -/
theorem isNull_write_of_read (codec : Codec β) {value : Json} {b : β} (taken : codec.read value = some b)
    (shown : value.isNull = false) : (codec.write b).isNull = false := by
  cases codec with
  | freeform =>
    obtain ⟨-, same⟩ := Freeform.ofJson?_eq_some_iff.mp taken
    rw [write, same, Json.isNull_canonical, shown]
  | text | bool | int32 | int64 | timestamp | wholeTimestamp | texts | listOf | record => rfl

/-- Items that are read one by one are full if whatever the codec of the items reads is. -/
theorem full_of_mapM {items : Codec β} {values : List Json} {taken : List β}
    (each : values.mapM items.read = some taken)
    (full : ∀ {value : Json} {b : β}, items.read value = some b → items.full b = true) :
    taken.all items.full = true := by
  induction values generalizing taken with
  | nil =>
    cases each
    rfl
  | cons value rest ih =>
    simp only [List.mapM_cons, Option.bind_eq_bind, Option.bind_eq_some_iff, Option.pure_def,
      Option.some.injEq] at each
    obtain ⟨b, one, others, more, rfl⟩ := each
    rw [List.all_cons, full one, ih more, Bool.and_self]

theorem exists_of_listOf? {items : Codec β} {value : Json} {taken : List β}
    (given : listOf? items.read value = some taken) : ∃ values : List Json, values.mapM items.read = some taken := by
  obtain ⟨values, -, each⟩ := Option.bind_eq_some_iff.mp given
  exact ⟨values, each⟩

mutual

/-- Values that have been read have no optional part that is there but null. -/
theorem full_of_read : {β : Type} → (codec : Codec β) → {value : Json} → {b : β} →
    codec.read value = some b → codec.full b = true
  | _, .text, _, _, _ | _, .bool, _, _, _ | _, .int32, _, _, _ | _, .int64, _, _, _
  | _, .timestamp, _, _, _ | _, .wholeTimestamp, _, _, _ | _, .freeform, _, _, _ | _, .texts, _, _, _ => rfl
  | _, .listOf items, _, _, taken => by
    obtain ⟨values, each⟩ := exists_of_listOf? taken
    exact full_of_mapM each items.full_of_read
  | _, .record form parts shape, _, _, taken => by
    obtain ⟨f, -, taken⟩ := Option.bind_eq_some_iff.mp taken
    obtain ⟨p, each, rfl⟩ := Option.map_eq_some_iff.mp taken
    rw [full, shape.take_make]
    exact parts.full_of_read each

/-- What is read for a part is full: an optional part never holds a value that is written as null. -/
theorem Part.full_of_read : {β : Type} → (part : Part β) → {f : Fields Json} → {name : String} → {b : β} →
    part.read f name = some b → part.full b = true
  | _, .required codec, _, _, _, taken => by
    obtain ⟨value, given⟩ := Fields.exists_of_required? taken
    exact codec.full_of_read given
  | _, .optional codec, _, _, none, _ => rfl
  | _, .optional codec, _, _, some b, taken => by
    obtain ⟨value, shown, given⟩ := Fields.exists_of_optional? taken
    rw [Part.full, Option.all_some, codec.isNull_write_of_read given shown, codec.full_of_read given]
    rfl
  | _, .listed codec, _, _, _, taken => by
    rcases Fields.exists_of_orDefault? taken with rfl | ⟨value, given⟩
    · rfl
    · obtain ⟨values, each⟩ := exists_of_listOf? given
      exact full_of_mapM each codec.full_of_read
  | _, .flag, _, _, _, _ | _, .word, _, _, _, _ | _, .constant _, _, _, _, _ => rfl

theorem Parts.full_of_read : {names : List String} → {P : Type} → (parts : Parts names P) →
    {f : Fields Json} → {p : P} → parts.read f = some p → parts.full p = true
  | _, _, .nil, _, _, _ => rfl
  | _, _, .cons name part rest _, _, _, taken => by
    obtain ⟨first, one, taken⟩ := Option.bind_eq_some_iff.mp taken
    obtain ⟨others, more, taken⟩ := Option.bind_eq_some_iff.mp taken
    cases taken
    rw [Parts.full, part.full_of_read one, rest.full_of_read more, Bool.and_self]

end

mutual

/-- Nothing is lost the second time. -/
theorem reread_reread : {β : Type} → (codec : Codec β) → (b : β) →
    codec.reread (codec.reread b) = codec.reread b
  | _, .wholeTimestamp, t => t.wholeSeconds_wholeSeconds
  | _, .text, _ | _, .bool, _ | _, .int32, _ | _, .int64, _ | _, .timestamp, _ | _, .freeform, _
  | _, .texts, _ => rfl
  | _, .listOf items, values => by
    rw [reread, reread, List.map_map]
    exact List.map_congr_left fun b _ => items.reread_reread b
  | _, .record _ parts shape, r => by
    rw [reread, reread, shape.take_make, parts.reread_reread]

theorem Part.reread_reread : {β : Type} → (part : Part β) → (b : β) →
    part.reread (part.reread b) = part.reread b
  | _, .required codec, b => codec.reread_reread b
  | _, .optional _, none => rfl
  | _, .optional codec, some b => by
    have once : (Part.optional codec).reread (some b) =
        if (codec.write b).isNull then none else some (codec.reread b) := rfl
    rw [once]
    cases null : (codec.write b).isNull with
    | true => rfl
    | false =>
      have shown := codec.isNull_write_of_read (codec.read_write .id b) null
      rw [if_neg Bool.false_ne_true, Part.reread, Option.bind_some, shown, codec.reread_reread]
      rfl
  | _, .listed codec, values => by
    rw [Part.reread, Part.reread, List.map_map]
    exact List.map_congr_left fun b _ => codec.reread_reread b
  | _, .flag, _ | _, .word, _ | _, .constant _, _ => rfl

/-- Reading the parts of a record back twice gives what reading them back once gave. -/
theorem Parts.reread_reread : {names : List String} → {P : Type} → (parts : Parts names P) → (p : P) →
    parts.reread (parts.reread p) = parts.reread p
  | _, _, .nil, _ => rfl
  | _, _, .cons _ part rest _, p => by
    rw [Parts.reread, Parts.reread, part.reread_reread, rest.reread_reread]

end

/-! ### Whole seconds -/

mutual

/-- A value without nulls for optional parts loses nothing but fractions of seconds. -/
theorem reread_eq_whole : {β : Type} → (codec : Codec β) → {b : β} → codec.full b = true →
    codec.reread b = codec.whole b
  | _, .text, _, _ | _, .bool, _, _ | _, .int32, _, _ | _, .int64, _, _ | _, .timestamp, _, _
  | _, .wholeTimestamp, _, _ | _, .freeform, _, _ | _, .texts, _, _ => rfl
  | _, .listOf items, _, full =>
    List.map_congr_left fun _ mem => items.reread_eq_whole (List.all_eq_true.mp full _ mem)
  | _, .record _ parts shape, _, full => congrArg shape.make (parts.reread_eq_whole full)

/-- A full part is read back as it is but for the fractions of seconds that it does not write. -/
theorem Part.reread_eq_whole : {β : Type} → (part : Part β) → {b : β} → part.full b = true →
    part.reread b = part.whole b
  | _, .required codec, _, full => codec.reread_eq_whole full
  | _, .optional _, none, _ => rfl
  | _, .optional codec, some b, full => by
    obtain ⟨shown, full⟩ := Bool.and_eq_true_iff.mp full
    rw [Bool.not_eq_true'] at shown
    rw [Part.reread, Option.bind_some, shown, codec.reread_eq_whole full]
    rfl
  | _, .listed codec, _, full =>
    List.map_congr_left fun _ mem => codec.reread_eq_whole (List.all_eq_true.mp full _ mem)
  | _, .flag, _, _ | _, .word, _, _ | _, .constant _, _, _ => rfl

/-- Full parts are read back as they are but for the fractions of seconds that they do not write. -/
theorem Parts.reread_eq_whole : {names : List String} → {P : Type} → (parts : Parts names P) → {p : P} →
    parts.full p = true → parts.reread p = parts.whole p
  | _, _, .nil, _, _ => rfl
  | _, _, .cons _ part rest _, _, full => by
    obtain ⟨first, others⟩ := Bool.and_eq_true_iff.mp full
    rw [Parts.reread, Parts.whole, part.reread_eq_whole first, rest.reread_eq_whole others]

end

mutual

/-- Only whole seconds are written where they are. -/
theorem write_whole : {β : Type} → (codec : Codec β) → (b : β) → codec.write (codec.whole b) = codec.write b
  | _, .wholeTimestamp, t => congrArg Json.text t.wholeText_wholeSeconds
  | _, .text, _ | _, .bool, _ | _, .int32, _ | _, .int64, _ | _, .timestamp, _ | _, .freeform, _
  | _, .texts, _ => rfl
  | _, .listOf items, values => by
    rw [write, write, whole, List.map_map]
    exact congrArg Json.array (List.map_congr_left fun b _ => items.write_whole b)
  | _, .record _ parts shape, r => by
    rw [write, write, whole, shape.take_make, parts.write_whole]

theorem Part.write_whole : {β : Type} → (part : Part β) → (b : β) → part.write (part.whole b) = part.write b
  | _, .required codec, b => congrArg some (codec.write_whole b)
  | _, .optional _, none => rfl
  | _, .optional codec, some b => congrArg some (codec.write_whole b)
  | _, .listed codec, values => by
    rw [Part.write, Part.write, Part.whole, List.isEmpty_map, List.map_map]
    have same : values.map (codec.write ∘ codec.whole) = values.map codec.write :=
      List.map_congr_left fun b _ => codec.write_whole b
    rw [same]
  | _, .flag, _ | _, .word, _ | _, .constant _, _ => rfl

theorem Parts.write_whole : {names : List String} → {P : Type} → (parts : Parts names P) → (p : P) →
    parts.write (parts.whole p) = parts.write p
  | _, _, .nil, _ => rfl
  | _, _, .cons _ part rest _, p => by
    rw [Parts.write, Parts.write, Parts.whole, part.write_whole, rest.write_whole]

end

/-- What has been read is written once more as it is. -/
theorem write_reread (codec : Codec β) {b : β} (full : codec.full b = true) :
    codec.write (codec.reread b) = codec.write b := by
  rw [codec.reread_eq_whole full, codec.write_whole]

theorem Part.write_reread (part : Part β) {b : β} (full : part.full b = true) :
    part.write (part.reread b) = part.write b := by
  rw [part.reread_eq_whole full, part.write_whole]

mutual

/-- Whether timestamps of the value are written in whole seconds. -/
def rounds {β : Type} : Codec β → Bool
  | .wholeTimestamp => true
  | .listOf items => items.rounds
  | .record _ parts _ => parts.rounds
  | _ => false

def Part.rounds {β : Type} : Part β → Bool
  | .required codec | .optional codec | .listed codec => codec.rounds
  | _ => false

def Parts.rounds {names : List String} {P : Type} : Parts names P → Bool
  | .nil => false
  | .cons _ part rest _ => part.rounds || rest.rounds

end

mutual

/-- A value whose timestamps are all written in full is whole as it is. -/
theorem whole_eq_self : {β : Type} → (codec : Codec β) → codec.rounds = false → (b : β) → codec.whole b = b
  | _, .text, _, _ | _, .bool, _, _ | _, .int32, _, _ | _, .int64, _, _ | _, .timestamp, _, _
  | _, .freeform, _, _ | _, .texts, _, _ => rfl
  | _, .listOf items, exact, values =>
    (List.map_congr_left fun b _ => items.whole_eq_self exact b).trans (List.map_id values)
  | _, .record _ parts shape, exact, r => by
    rw [whole, parts.whole_eq_self exact, shape.make_take]

theorem Part.whole_eq_self : {β : Type} → (part : Part β) → part.rounds = false → (b : β) → part.whole b = b
  | _, .required codec, exact, b => codec.whole_eq_self exact b
  | _, .optional _, _, none => rfl
  | _, .optional codec, exact, some b => congrArg some (codec.whole_eq_self exact b)
  | _, .listed codec, exact, values =>
    (List.map_congr_left fun b _ => codec.whole_eq_self exact b).trans (List.map_id values)
  | _, .flag, _, _ | _, .word, _, _ | _, .constant _, _, _ => rfl

theorem Parts.whole_eq_self : {names : List String} → {P : Type} → (parts : Parts names P) →
    parts.rounds = false → (p : P) → parts.whole p = p
  | _, _, .nil, _, _ => rfl
  | _, _, .cons _ part rest _, exact, p => by
    obtain ⟨first, others⟩ := Bool.or_eq_false_iff.mp exact
    rw [Parts.whole, part.whole_eq_self first, rest.whole_eq_self others]

end

end VirtLifecycle.Codec
