/-
Module: VirtLifecycle.Proofs.Codec.Repeated
Purpose: The same patch merged again. A patch is merged into what has been written for a value, the result is
  read, and the patch is merged into what is written for that: the same value is read again. Reading drops
  and reorders much of a document and writing rounds timestamps, so this is more than that merging twice is
  merging once. What the patch does not change has been written and read before, so it is whole by then; what
  it changes it makes the same both times.
Main exports: Codec.written, Codec.Part.written, Codec.Parts.written, Codec.read_again
-/
import VirtLifecycle.Proofs.Codec.Merging

namespace VirtLifecycle.Codec

open Json (mergeAt mergePatch IsCanonicalAt)

/-- The document for a value, if there is one. -/
def written {β : Type} (codec : Codec β) (start : Option β) : Json :=
  (start.map fun b => (codec.write b).canonical).getD .null

/-- What stands for a part in the document of a record, if there is one. -/
def Part.written {β : Type} (part : Part β) (start : Option β) : Option Json :=
  start.bind fun b => (part.write b).map Json.canonical

/-- What stands under a name in the document of a record, if there is one. -/
def Parts.written {names : List String} {P : Type} (parts : Parts names P) (start : Option P)
    (name : String) : Option Json :=
  start.bind fun p => (Keyed.find? name (parts.write p)).map Json.canonical

variable {β P : Type} {names : List String}

/-- What a codec writes is canonical once it is put in canonical form; for no value it is null. -/
theorem isCanonical_written (codec : Codec β) (start : Option β) : (codec.written start).IsCanonical := by
  cases start with
  | none => trivial
  | some b => exact Json.isCanonical_canonical _

/-! ### Records and their parts -/

theorem Parts.written_cons (name : String) (part : Part β) (rest : Parts names P) (new : name ∉ names)
    (start : Option (β × P)) :
    (Parts.cons name part rest new).written start name = part.written (start.map Prod.fst) := by
  cases start with
  | none => rfl
  | some p =>
    rw [Parts.written, Option.bind_some, Fields.find?_eq_head?, Parts.all_write_cons, Option.head?_toList]
    rfl

/-- Under the name of a later part stands what the later parts write: names differ. -/
theorem Parts.written_rest (name : String) (part : Part β) (rest : Parts names P) (new : name ∉ names)
    (start : Option (β × P)) {other : String} (later : other ∈ names) :
    (Parts.cons name part rest new).written start other = rest.written (start.map Prod.snd) other := by
  cases start with
  | none => rfl
  | some p =>
    rw [Parts.written, Option.bind_some, Fields.find?_eq_head?, Parts.all_write_rest _ _ _ _ _ later,
      ← Fields.find?_eq_head?]
    rfl

/-- An object patch of the document of a record changes each of its members on its own. -/
theorem find?_mergePatch_written {ρ : Type} (form : Form) (parts : Parts names P) (shape : Shape ρ P)
    (start : Option ρ) {changes : List (String × Json)} (canonical : (Json.object changes).IsCanonical)
    (name : String) : (mergePatch ((record form parts shape).written start) (.object changes)).find? name =
      mergeAt (parts.written (start.map shape.take) name) (Keyed.find? name changes) := by
  rw [Json.find?_mergePatch (isCanonical_written _ start) canonical]
  cases start with
  | none => rfl
  | some r =>
    have there := Json.find?_canonical (parts.nodup_write (shape.take r)) name
    exact congrArg (mergeAt · _) there

/-! ### The same patch twice -/

/-- What has been read of nothing is read again as it is. -/
theorem Part.reread_of_missing (part : Part β) {b : β} (taken : part.readAt none = some b) :
    part.reread b = b := by
  cases part with
  | required codec => cases taken
  | optional codec | listed codec =>
    cases taken
    rfl
  | flag | word | constant => rfl

/-- What has been read from a part as it stood is read again as it is. -/
theorem Part.read_again_unchanged (part : Part β) {start : Option β} {first : β}
    (taken : part.readAt (part.written start) = some first) :
    part.readAt (part.written (some first)) = some first := by
  have again : part.readAt (part.written (some first)) = some (part.reread first) :=
    part.read_write .canonical first
  cases start with
  | none => rw [again, part.reread_of_missing taken]
  | some b =>
    have once : part.readAt (part.written (some b)) = some (part.reread b) := part.read_write .canonical b
    rw [once] at taken
    rw [again, ← Option.some.inj taken, part.reread_reread]

/-- Values that are kept as they are are merged as they are. -/
theorem read_again_of_keeps {codec : Codec β} {test fit : Json → Prop} (kept : Slot.Keeps codec.rewrite test fit)
    {value : Json} {changes : List (String × Json)} {first : β} (canonical : value.IsCanonical)
    (canonical' : (Json.object changes).IsCanonical)
    (taken : codec.read (mergePatch value (.object changes)) = some first) :
    codec.read (mergePatch (codec.written (some first)) (.object changes)) = some first := by
  have merged := Json.isCanonical_mergePatch (.object changes) canonical canonical'
  have rewritten : codec.rewrite (mergePatch value (.object changes)) = some (codec.write first) := by
    rw [rewrite, Rewrite.of, taken, Option.map_some]
  obtain ⟨-, same⟩ := kept.eq_self merged rewritten
  have document : codec.written (some first) = mergePatch value (.object changes) := by
    change (codec.write first).canonical = _
    rw [same, Json.canonical_of_isCanonical merged]
  rw [document, Json.mergePatch_again _ canonical canonical', taken]

mutual

/-- **A patch of what it has left leaves the same.** -/
theorem read_again : {β : Type} → (codec : Codec β) → {start : Option β} → {first : β} →
    {changes : List (String × Json)} → (Json.object changes).IsCanonical →
    codec.read (mergePatch (codec.written start) (.object changes)) = some first →
    codec.read (mergePatch (codec.written (some first)) (.object changes)) = some first
  | _, .freeform, _, _, _, canonical, taken =>
    read_again_of_keeps Slot.keeps_freeform (isCanonical_written _ _) canonical taken
  | _, .texts, _, _, _, canonical, taken =>
    read_again_of_keeps Slot.keeps_texts (isCanonical_written _ _) canonical taken
  | _, .record form parts shape, start, first, changes, canonical, taken => by
    -- both merged documents are objects, and each name stands once in them
    have fields : ∀ target : Json, target.IsCanonical →
        form.fields? parts.fieldNames (mergePatch target (.object changes)) =
          some ⟨(mergePatch target (.object changes)).membersOrNone⟩ ∧
        ∀ name, (Fields.mk (mergePatch target (.object changes)).membersOrNone).all name =
          ((mergePatch target (.object changes)).find? name).toList := by
      intro target canonicalTarget
      have once := Keyed.nodup_of_ascending
        (Json.isCanonical_mergePatch (.object changes) canonicalTarget canonical).1
      refine ⟨form.fields?_object _ fun name => ?_, Fields.all_eq_toList once⟩
      rw [Fields.all_eq_toList once]
      exact Option.length_toList_le
    obtain ⟨given, all⟩ := fields _ (isCanonical_written (.record form parts shape) start)
    rw [read, given, Option.bind_eq_bind, Option.bind_some] at taken
    obtain ⟨p, each, rfl⟩ := Option.map_eq_some_iff.mp taken
    obtain ⟨given', all'⟩ := fields _ (isCanonical_written (.record form parts shape) (some (shape.make p)))
    have found := find?_mergePatch_written form parts shape start canonical
    have found' := find?_mergePatch_written form parts shape (some (shape.make p)) canonical
    rw [Option.map_some, shape.take_make] at found'
    have again := parts.read_again (fun name _ => canonical.findAt name)
      (fun name _ => (all name).trans (congrArg Option.toList (found name))) each
      (fun name _ => (all' name).trans (congrArg Option.toList (found' name)))
    rw [read, given', Option.bind_eq_bind, Option.bind_some, again, Option.map_some]
  | _, .text, _, _, _, _, taken | _, .bool, _, _, _, _, taken | _, .int32, _, _, _, _, taken
  | _, .int64, _, _, _, _, taken | _, .timestamp, _, _, _, _, taken | _, .wholeTimestamp, _, _, _, _, taken
  | _, .listOf _, _, _, _, _, taken => nomatch taken

/-- A patch to a field that has been read once is read to the same result when it is made again, on what the
first result writes. The induction is on the codec; a change that is no object replaces the value both
times. -/
theorem Part.read_again : {β : Type} → (part : Part β) → {start : Option β} → {first : β} →
    {change : Option Json} → IsCanonicalAt change →
    part.readAt (mergeAt (part.written start) change) = some first →
    part.readAt (mergeAt (part.written (some first)) change) = some first
  -- a change that is no object makes the same of anything
  | _, part, _, _, none, _, taken => part.read_again_unchanged taken
  | _, _, _, _, some .null, _, taken | _, _, _, _, some (.bool _), _, taken
  | _, _, _, _, some (.number _), _, taken | _, _, _, _, some (.text _), _, taken
  | _, _, _, _, some (.array _), _, taken => taken
  | _, .required codec, start, first, some (.object changes), canonical, taken => by
    have document : ∀ start, mergeAt ((Part.required codec).written start) (some (.object changes)) =
        some (mergePatch (codec.written start) (.object changes)) := fun start => by cases start <;> rfl
    rw [document, Part.readAt_required] at taken ⊢
    exact codec.read_again (canonical _ rfl) taken
  | _, .optional codec, start, first, some (.object changes), canonical, taken => by
    have document : ∀ start : Option (Option _),
        mergeAt ((Part.optional codec).written start) (some (.object changes)) =
          some (mergePatch (codec.written start.join) (.object changes)) := by
      rintro (_ | _ | _) <;> rfl
    have read : ∀ start : Option _, (Part.optional codec).readAt
        (some (mergePatch (codec.written start) (.object changes))) =
          (codec.read (mergePatch (codec.written start) (.object changes))).map some :=
      fun start => Part.readAt_optional codec _
    rw [document, read] at taken ⊢
    obtain ⟨b, once, rfl⟩ := Option.map_eq_some_iff.mp taken
    exact congrArg (Option.map some) (codec.read_again (canonical _ rfl) once)
  | _, .constant _, _, (), some (.object _), _, _ => rfl
  | _, .flag, _, _, some (.object _), _, taken | _, .word, _, _, some (.object _), _, taken
  | _, .listed _, _, _, some (.object _), _, taken => nomatch taken

/-- The same for all parts of a record, from fields that show just what each name holds after the patch. -/
theorem Parts.read_again : {names : List String} → {P : Type} → (parts : Parts names P) →
    {start : Option P} → {first : P} → {change : String → Option Json} → {f f' : Fields Json} →
    (∀ name ∈ names, IsCanonicalAt (change name)) →
    (∀ name ∈ names, f.all name = (mergeAt (parts.written start name) (change name)).toList) →
    parts.read f = some first →
    (∀ name ∈ names, f'.all name = (mergeAt (parts.written (some first) name) (change name)).toList) →
    parts.read f' = some first
  | _, _, .nil, _, _, _, _, _, _, _, _, _ => rfl
  | _ :: names, _, .cons name part rest new, start, first, change, f, f', canonical, all, taken, all' => by
    obtain ⟨b, one, taken⟩ := Option.bind_eq_some_iff.mp taken
    obtain ⟨others, more, taken⟩ := Option.bind_eq_some_iff.mp taken
    cases taken
    have here := all name List.mem_cons_self
    have here' := all' name List.mem_cons_self
    rw [Parts.written_cons] at here here'
    rw [part.read_eq here] at one
    have again := part.read_again (canonical name List.mem_cons_self) one
    have later := rest.read_again (fun other mem => canonical other (List.mem_cons_of_mem _ mem))
      (fun other mem => Parts.written_rest name part rest new start mem ▸ all other (List.mem_cons_of_mem _ mem))
      more
      (fun other mem =>
        Parts.written_rest name part rest new (some (b, others)) mem ▸ all' other (List.mem_cons_of_mem _ mem))
    rw [Parts.read, part.read_eq here', later]
    exact congrArg (Option.bind · fun first => some (first, others)) again

end

end VirtLifecycle.Codec
