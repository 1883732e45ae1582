/-
Module: VirtLifecycle.Proofs.Command.Line
Purpose: Command lines are read as they are typed. A command is typed as its name and its words; a kind can
  be spelled in several ways, the budget of a wait can stand at any place after the name, and the switch at
  any place at all, but not between the option of the budget and its value. Whichever way a command is
  typed, it is read again, with the switch exactly if that has been put in.
Main exports: Kind.IsSpelling, Command.IsTypable, Command.TypedAs, CommandLine.TypedAs,
  CommandLine.typed_lines_are_read
-/
import VirtLifecycle.Proofs.Command.Filling
import VirtLifecycle.Proofs.Decimal.Count
import VirtLifecycle.Proofs.Except
import VirtLifecycle.Proofs.ResourceId

namespace VirtLifecycle

open CommandLine (IsPlain Piece)

namespace Kind

variable {kind : Kind} {s : String}

/-- The text is the name of the kind or its abbreviation, whatever the case of its letters. -/
def IsSpelling (kind : Kind) (s : String) : Prop :=
  lowerCase s = kind.singular ∨ lowerCase s = kind.shortName

theorem isSpelling_name (kind : Kind) : kind.IsSpelling kind.name := by
  cases kind <;> exact .inl rfl

/-- A kind is found by its spellings. -/
theorem ofSpelling?_of_isSpelling (spelled : kind.IsSpelling s) : ofSpelling? s = some kind := by
  unfold ofSpelling?
  rcases spelled with named | abbreviated
  · rw [named]
    cases kind <;> decide
  · rw [abbreviated]
    cases kind <;> decide

/-- No kind is spelled with a dash. -/
theorem isPlain_of_isSpelling (spelled : kind.IsSpelling s) : IsPlain s := by
  intro dash
  have small : (lowerCase s).toList.head? = some '-' := by
    rw [lowerCase, String.toList_ofList, List.head?_map, dash]
    rfl
  rcases spelled with named | abbreviated
  · rw [named] at small
    cases kind <;> exact absurd small (by decide)
  · rw [abbreviated] at small
    cases kind <;> exact absurd small (by decide)

end Kind

/-- What spells a number does not begin with a dash. -/
theorem Count.isPlain_of_spells {s : String} {n : Nat} (spelled : Count.Spells s n) : IsPlain s := by
  obtain ⟨digits, signed, some, all, -⟩ := spelled.digits
  intro dash
  rcases signed with same | plus
  · rw [same] at dash
    have digit := all '-' (List.mem_of_head? dash)
    exact absurd digit (by decide)
  · rw [plus] at dash
    cases dash

namespace Command

/-- The command can be typed: what it is given is there and can be read, and none of its words begins with a
dash. -/
inductive IsTypable : Command → Prop where
  | create {path : String} (given : path ≠ "") (plain : IsPlain path) : IsTypable (.create path)
  | read {kind : Kind} {id : ResourceId} (legible : id.IsLegible) (plain : IsPlain id.text) :
      IsTypable (.read kind id)
  | delete {kind : Kind} {id : ResourceId} (legible : id.IsLegible) (plain : IsPlain id.text) :
      IsTypable (.delete kind id)
  | waitRunning {id : ResourceId} {seconds : Nat} (legible : id.IsLegible) (plain : IsPlain id.text)
      (fits : seconds < 2 ^ 64) : IsTypable (.waitRunning id seconds)

/-- The pieces that a command can be typed as. -/
inductive TypedAs : Command → List Piece → Prop where
  | create (path : String) : TypedAs (.create path) [.word "create", .word path]
  | read {kind : Kind} {spelling : String} (id : ResourceId) (spelled : kind.IsSpelling spelling) :
      TypedAs (.read kind id) [.word "read", .word spelling, .word id.text]
  | delete {kind : Kind} {spelling : String} (id : ResourceId) (spelled : kind.IsSpelling spelling) :
      TypedAs (.delete kind id) [.word "delete", .word spelling, .word id.text]
  | waitRunning (id : ResourceId) : TypedAs (.waitRunning id 300) [.word "wait-running", .word id.text]
  | waitRunningFor {id : ResourceId} {seconds : Nat} {value : String} (before : List Piece)
      {after : List Piece} (attached : Bool) (around : before ++ after = [.word id.text])
      (spelled : Count.Spells value seconds) :
      TypedAs (.waitRunning id seconds)
        (.word "wait-running" :: before ++ .budget attached value :: after)

/-- Every command that can be typed is typed somehow. -/
theorem exists_typedAs {command : Command} (typable : command.IsTypable) :
    ∃ pieces, command.TypedAs pieces := by
  cases typable with
  | create given plain => exact ⟨_, .create _⟩
  | @read kind id legible plain => exact ⟨_, .read id kind.isSpelling_name⟩
  | @delete kind id legible plain => exact ⟨_, .delete id kind.isSpelling_name⟩
  | waitRunning legible plain fits =>
    exact ⟨_, .waitRunningFor [] true rfl (Count.spells_text fits)⟩

end Command

namespace CommandLine

/-- The pieces that a command line can be typed as: those of its command, with the switch put in somewhere if
there is not to be any waiting. -/
inductive TypedAs : CommandLine → List Piece → Prop where
  | waiting {command : Command} {pieces : List Piece} (typed : command.TypedAs pieces) :
      TypedAs ⟨false, command⟩ pieces
  | notWaiting {command : Command} (before : List Piece) {after : List Piece}
      (typed : command.TypedAs (before ++ after)) :
      TypedAs ⟨true, command⟩ (before ++ .switch :: after)

/-! ### Filling commands in -/

theorem Slot.read_path {path : String} (given : path ≠ "") : Slot.read .path path = .ok (.path path) := by
  have some : path.isEmpty = false := by simpa using given
  rw [Slot.read, some]
  rfl

theorem Slot.read_kind {kind : Kind} {spelling : String} (spelled : kind.IsSpelling spelling) :
    Slot.read .kind spelling = .ok (.kind kind) := by
  rw [Slot.read, Kind.ofSpelling?_of_isSpelling spelled]

/-- An id in its written form is accepted if it is legible, which an id with a slash in its name is not. -/
theorem Slot.read_id {id : ResourceId} (legible : id.IsLegible) : Slot.read .id id.text = .ok (.id id) := by
  rw [Slot.read, (ResourceId.ofText?_text id).mpr legible]

/-- What is filled in at first. -/
def Verb.blank (verb : Verb) : Filling := ⟨[], verb.slots, .none, none, false⟩

/-- The pieces make up the command, with no switch among them. -/
structure Verb.Makes (verb : Verb) (pieces : List Piece) (command : Command) : Prop where
  waits : .switch ∉ pieces
  fills : ∃ filling, Filling.TakesAll verb verb.blank pieces filling ∧ filling.noWait = false ∧
    verb.command? filling.words filling.seconds = some command

section Words

variable {verb : Verb} {id : ResourceId} {seconds : Option Nat} {words : List Word}
  (legible : id.IsLegible) (plain : IsPlain id.text)
include legible plain

theorem takes_id : Filling.Takes verb ⟨words, [.id], .none, seconds, false⟩ (.word id.text)
    ⟨words ++ [.id id], [], .none, seconds, false⟩ :=
  .word rfl plain (Slot.read_id legible)

theorem takesAll_kind_id {kind : Kind} {spelling : String} (spelled : kind.IsSpelling spelling) :
    Filling.TakesAll verb ⟨[], [.kind, .id], .none, seconds, false⟩ [.word spelling, .word id.text]
      ⟨[.kind kind, .id id], [], .none, seconds, false⟩ := by
  refine .cons (.word rfl ?_ (Slot.read_kind spelled)) (.cons (takes_id legible plain) .nil)
  exact Kind.isPlain_of_isSpelling spelled

end Words

/-- A budget around the id of a machine is taken at either place. -/
theorem takesAll_budget {id : ResourceId} {value : String} {seconds : Nat} {before after : List Piece}
    (attached : Bool) (legible : id.IsLegible) (plain : IsPlain id.text)
    (around : before ++ after = [.word id.text]) (spelled : Count.Spells value seconds) :
    Filling.TakesAll .waitRunning Verb.waitRunning.blank (before ++ .budget attached value :: after)
      ⟨[.id id], [], .none, some seconds, false⟩ := by
  have plainValue := Count.isPlain_of_spells spelled
  have read := Count.ofText_eq_ok_iff.mpr spelled
  cases before with
  | nil =>
    rw [List.nil_append] at around
    subst around
    exact .cons (.budget rfl rfl plainValue read) (.cons (takes_id legible plain) .nil)
  | cons piece before =>
    obtain ⟨rfl, none⟩ := List.cons.inj around
    obtain ⟨rfl, rfl⟩ := List.append_eq_nil_iff.mp none
    exact .cons (takes_id legible plain) (.cons (.budget rfl rfl plainValue read) .nil)

/-- What a command is typed as is its name, and then pieces that make it up. -/
theorem makes_of_typedAs {command : Command} {pieces : List Piece} (typed : command.TypedAs pieces)
    (typable : command.IsTypable) :
    ∃ verb body, pieces = .word (Verb.name verb) :: body ∧ verb.Makes body command := by
  cases typed with
  | create path =>
    cases typable with
    | create given plain =>
      refine ⟨.create, _, rfl, by simp, ⟨[.path path], [], .none, none, false⟩, ?_, rfl, rfl⟩
      exact .cons (.word rfl plain (Slot.read_path given)) .nil
  | read id spelled =>
    cases typable with
    | read legible plain =>
      exact ⟨.read, _, rfl, by simp, _, takesAll_kind_id legible plain spelled, rfl, rfl⟩
  | delete id spelled =>
    cases typable with
    | delete legible plain =>
      exact ⟨.delete, _, rfl, by simp, _, takesAll_kind_id legible plain spelled, rfl, rfl⟩
  | waitRunning id =>
    cases typable with
    | waitRunning legible plain =>
      exact ⟨.waitRunning, _, rfl, by simp, _, .cons (takes_id legible plain) .nil, rfl, rfl⟩
  | waitRunningFor before attached around spelled =>
    cases typable with
    | waitRunning legible plain =>
      refine ⟨.waitRunning, _, rfl, ?_, _, takesAll_budget attached legible plain around spelled, rfl, rfl⟩
      have waits := congrArg (Piece.switch ∈ ·) around
      simpa using waits

/-! ### Reading command lines -/

theorem read_name (noWait : Bool) (verb : Verb) (arguments : List String) :
    read noWait (verb.name :: arguments) = ofVerb verb noWait arguments := by
  cases verb <;> rfl

theorem read_switch (arguments : List String) :
    read false ("--no-wait" :: arguments) = read true arguments := by
  rfl

/-- If a command takes all pieces given to it, and what it has then makes up a command, then its arguments
are read as that command. -/
theorem ofVerb_eq_ok {verb : Verb} {pieces : List Piece} {filling : Filling} {command : Command}
    (noWait : Bool) (all : Filling.TakesAll verb verb.blank pieces filling)
    (made : verb.command? filling.words filling.seconds = some command) :
    ofVerb verb noWait (pieces.flatMap Piece.arguments) = .ok ⟨noWait || filling.noWait, command⟩ := by
  have filled := all.fill_eq (Filling.standsFor_self rfl)
  exact (Except.bind_eq_ok_iff _ _ _).mpr ⟨filling, filled, by rw [made]⟩

/-- The pieces of a command are read with the switch wherever it is put in, and without. -/
theorem ofVerb_makes {verb : Verb} {pieces : List Piece} {command : Command}
    (makes : verb.Makes pieces command) (noWait : Bool) :
    ofVerb verb noWait (pieces.flatMap Piece.arguments) = .ok ⟨noWait, command⟩ := by
  obtain ⟨filling, all, unset, made⟩ := makes.fills
  rw [ofVerb_eq_ok noWait all made, unset, Bool.or_false]

/-- Between any two pieces of a command the switch may stand, and the command then does not wait. -/
theorem ofVerb_makes_switched {verb : Verb} {before after : List Piece} {command : Command}
    (makes : verb.Makes (before ++ after) command) :
    ofVerb verb false ((before ++ .switch :: after).flatMap Piece.arguments) = .ok ⟨true, command⟩ := by
  obtain ⟨filling, all, unset, made⟩ := makes.fills
  exact ofVerb_eq_ok false (all.insert_switch makes.waits rfl) made

/-- **Command lines are read as they are typed.** A command whose words are there, can be read and do not
begin with a dash can be typed, with and without the switch. However its kind and its budget are spelled,
whether the budget is left out for 300 seconds or typed before or after the id, in one argument or in two,
and wherever between the pieces the switch is put in, exactly that command is read, with the switch exactly
if it has been put in. -/
theorem typed_lines_are_read (line : CommandLine) (typable : line.command.IsTypable) :
    (∃ pieces, line.TypedAs pieces) ∧
      ∀ pieces, line.TypedAs pieces → ofArguments (pieces.flatMap Piece.arguments) = .ok line := by
  obtain ⟨noWait, command⟩ := line
  refine ⟨?_, fun pieces typed => ?_⟩
  · obtain ⟨pieces, typed⟩ := Command.exists_typedAs typable
    cases noWait with
    | false => exact ⟨pieces, .waiting typed⟩
    | true => exact ⟨_, .notWaiting [] typed⟩
  · -- A switch before the name of the command is read on its own; any other one is filled in with the words.
    rw [ofArguments]
    cases typed with
    | waiting typed =>
      obtain ⟨verb, body, rfl, makes⟩ := makes_of_typedAs typed typable
      exact (read_name false verb _).trans (ofVerb_makes makes false)
    | notWaiting before typed =>
      obtain ⟨verb, body, whole, makes⟩ := makes_of_typedAs typed typable
      cases before with
      | nil =>
        rw [List.nil_append] at whole
        subst whole
        exact (read_switch _).trans ((read_name true verb _).trans (ofVerb_makes makes true))
      | cons piece before =>
        obtain ⟨rfl, rfl⟩ := List.cons.inj whole
        exact (read_name false verb _).trans (ofVerb_makes_switched makes)

/-- A wait with the switch before its budget, and a deletion with the switch between its words. -/
theorem typed_lines_are_read_of_machines :
    let id : ResourceId := ⟨"vms", "a"⟩
    id.IsLegible ∧ IsPlain id.text ∧ Count.Spells "+90" 90 ∧ Kind.replicaSet.IsSpelling "VmIrS" ∧
      ofArguments ["wait-running", "--no-wait", "--timeout-secs", "+90", "vms/a"] =
        .ok ⟨true, .waitRunning id 90⟩ ∧
      ofArguments ["delete", "VmIrS", "--no-wait", "vms/a"] = .ok ⟨true, .delete .replicaSet id⟩ ∧
      ∃ pieces, TypedAs ⟨false, .read .dataVolume id⟩ pieces := by
  intro id
  have legible : id.IsLegible := (ResourceId.ofText?_text id).mp (by decide)
  have plain : IsPlain id.text := by decide
  have ninety : Count.Spells "+90" 90 := Count.ofText_eq_ok_iff.mp rfl
  have spelled : Kind.replicaSet.IsSpelling "VmIrS" := .inr rfl
  refine ⟨legible, plain, ninety, spelled, ?_, ?_, ?_⟩
  · have typable : Command.IsTypable (.waitRunning id 90) := .waitRunning legible plain (by decide)
    exact (typed_lines_are_read ⟨true, .waitRunning id 90⟩ typable).2 _
      (.notWaiting [.word "wait-running"] (.waitRunningFor [] false rfl ninety))
  · have typable : Command.IsTypable (.delete .replicaSet id) := .delete legible plain
    exact (typed_lines_are_read ⟨true, .delete .replicaSet id⟩ typable).2 _
      (.notWaiting [.word "delete", .word "VmIrS"] (.delete id spelled))
  · have typable : Command.IsTypable (.read .dataVolume id) := .read legible plain
    exact (typed_lines_are_read ⟨false, .read .dataVolume id⟩ typable).1

end CommandLine

end VirtLifecycle
