/-
Module: VirtLifecycle.Proofs.Command.Filling
Purpose: How a command is filled in. A command line is made of pieces: its switch, words, and a budget that
  is typed in one argument or in two. Each piece changes a filling in one way, but what comes last is only
  checked when the next piece comes; a filling stands for the one that it is after that check.
Main exports: CommandLine.IsPlain, CommandLine.Piece, CommandLine.Piece.arguments, Filling.Takes,
  Filling.StandsFor, Filling.StandsFor.step, Filling.TakesAll, Filling.TakesAll.fill_eq,
  Filling.TakesAll.insert_switch
-/
import VirtLifecycle.Command.Line

namespace VirtLifecycle.CommandLine

/-- The text does not begin with a dash. -/
def IsPlain (text : String) : Prop := text.toList.head? ≠ some '-'

instance (text : String) : Decidable (IsPlain text) :=
  inferInstanceAs (Decidable (text.toList.head? ≠ some '-'))

/-- A piece of a command line. A budget is attached to its option, or is an argument of its own after it. -/
inductive Piece where
  | switch
  | word (text : String)
  | budget (attached : Bool) (value : String)
deriving DecidableEq, Repr

/-- The arguments that a piece is typed as. -/
def Piece.arguments : Piece → List String
  | switch => ["--no-wait"]
  | word text => [text]
  | budget true value => ["--timeout-secs=" ++ value]
  | budget false value => ["--timeout-secs", value]

/-! ### How arguments look -/

theorem Argument.ofText_of_isPlain {text : String} (plain : IsPlain text) :
    Argument.ofText text = .word text := by
  have no_dash (rest : List Char) : text.toList ≠ '-' :: rest := by
    intro chars
    exact plain (by rw [chars]; rfl)
  unfold ofText
  split
  · exact absurd ‹_› (no_dash _)
  · exact absurd ‹_› (no_dash _)
  · exact absurd ‹_› (no_dash _)
  · rfl

theorem Argument.ofText_switch : Argument.ofText "--no-wait" = .option "no-wait" none := by decide

/-- The budget option may stand without a value, which is then the next argument. -/
theorem Argument.ofText_budget : Argument.ofText "--timeout-secs" = .option "timeout-secs" none := by decide

/-- The budget option may have its value attached by an equals sign. The value goes up to the end, whatever
stands in it. -/
theorem Argument.ofText_attached (value : String) :
    Argument.ofText ("--timeout-secs=" ++ value) = .option "timeout-secs" (some value) := by
  have chars : ("--timeout-secs=" ++ value).toList =
      '-' :: '-' :: ("timeout-secs".toList ++ '=' :: value.toList) := by
    rw [String.toList_append]
    rfl
  rw [ofText, chars]
  simp

namespace Filling

variable {verb : Verb} {f g g' : Filling} {piece : Piece} {pieces before after : List Piece}

/-- What a piece makes of a filling that has been checked. -/
inductive Takes (verb : Verb) (f : Filling) : Piece → Filling → Prop where
  | switch (first : f.noWait = false) : Takes verb f .switch { f with noWait := true }
  | word {slot : Slot} {slots : List Slot} {text : String} {word : Word} (next : f.slots = slot :: slots)
      (plain : IsPlain text) (read : slot.read text = .ok word) :
      Takes verb f (.word text) { f with words := f.words ++ [word], slots := slots }
  | budget {attached : Bool} {value : String} {seconds : Nat} (allowed : verb.takesBudget = true)
      (first : f.seconds = none) (plain : IsPlain value) (read : Count.ofText value = .ok seconds) :
      Takes verb f (.budget attached value) { f with seconds := some seconds }

/-- Checking what has come last in the first filling leads to the second one. -/
structure StandsFor (f g : Filling) : Prop where
  settles : f.settle = .ok g
  slots : f.slots = g.slots
  checked : g.pending = .none
  complete : f.pending ≠ .budget none

theorem standsFor_self (checked : f.pending = .none) : f.StandsFor f where
  settles := by
    rw [settle, checked]
    cases f
    cases checked
    rfl
  slots := rfl
  checked := checked
  complete := by
    rw [checked]
    exact nofun

/-- A pending word is checked when it is settled, and added to the words checked before. -/
theorem settle_word {slot : Slot} {text : String} {word : Word} (f : Filling) (slots : List Slot)
    (read : slot.read text = .ok word) :
    settle { f with pending := .word slot text, slots := slots } =
      .ok { f with words := f.words ++ [word], slots := slots, pending := .none } := by
  change (slot.read text).map _ = _
  rw [read]
  rfl

theorem setSeconds_eq_ok {value : String} {seconds : Nat} (first : f.seconds = none)
    (read : Count.ofText value = .ok seconds) :
    f.setSeconds value = .ok { f with seconds := some seconds } := by
  rw [setSeconds, first, read]
  rfl

/-- The switch is taken the first time that it stands, after what is pending has been checked. -/
theorem addOption_switch (stands : f.StandsFor g) (first : g.noWait = false) :
    f.addOption verb "no-wait" none = .ok { g with noWait := true } := by
  rw [addOption, stands.settles]
  change (if g.noWait = true then _ else _) = _
  rw [if_neg (by rw [first]; exact nofun)]

/-- The budget with its value attached is taken the first time that it stands, where the command takes one.
-/
theorem addOption_attached {value : String} {seconds : Nat} (stands : f.StandsFor g)
    (allowed : verb.takesBudget = true) (first : g.seconds = none)
    (read : Count.ofText value = .ok seconds) :
    f.addOption verb "timeout-secs" (some value) = .ok { g with seconds := some seconds } := by
  rw [addOption, if_pos allowed, stands.settles]
  exact setSeconds_eq_ok first read

theorem addOption_budget (stands : f.StandsFor g) (allowed : verb.takesBudget = true) :
    f.addOption verb "timeout-secs" none = .ok { g with pending := .budget none } := by
  rw [addOption, if_pos allowed, stands.settles]
  rfl

/-- A word is taken for the next place that is free, and is pending until something else comes. -/
theorem addWord_eq_ok {slot : Slot} {slots : List Slot} (stands : f.StandsFor g)
    (next : g.slots = slot :: slots) (text : String) :
    f.addWord text = .ok { g with pending := .word slot text, slots := slots } := by
  rw [addWord, stands.slots, next, stands.settles]
  rfl

/-- **One step.** The arguments of a piece lead from a filling that stands for another one to one that stands
for what the piece makes of that. -/
theorem StandsFor.step (stands : f.StandsFor g) (takes : Takes verb g piece g') :
    ∃ f' : Filling, f'.StandsFor g' ∧
      ∀ rest, fill verb false f (piece.arguments ++ rest) = fill verb false f' rest := by
  cases takes with
  | switch first =>
    refine ⟨_, standsFor_self stands.checked, fun rest => ?_⟩
    rw [Piece.arguments, List.singleton_append, fill, Argument.ofText_switch]
    dsimp only
    rw [addOption_switch stands first]
    rfl
  | @word slot slots text word next plain read =>
    -- The word itself is not read before the next piece comes, so the filling that is left has it pending.
    refine ⟨{ g with pending := .word slot text, slots := slots }, ⟨?_, rfl, stands.checked, nofun⟩,
      fun rest => ?_⟩
    · rw [stands.checked]
      exact settle_word g slots read
    · rw [Piece.arguments, List.singleton_append, fill, Argument.ofText_of_isPlain plain]
      dsimp only
      rw [if_neg stands.complete, addWord_eq_ok stands next]
      rfl
  | @budget attached value seconds allowed first plain read =>
    cases attached with
    | true =>
      refine ⟨_, standsFor_self stands.checked, fun rest => ?_⟩
      rw [Piece.arguments, List.singleton_append, fill, Argument.ofText_attached]
      dsimp only
      rw [addOption_attached stands allowed first read]
      rfl
    | false =>
      -- Two arguments: after the first one nothing but a value can come, after the second it is pending.
      refine ⟨{ g with pending := .budget (some value) }, ⟨?_, rfl, stands.checked, nofun⟩, fun rest => ?_⟩
      · rw [stands.checked]
        exact setSeconds_eq_ok (f := { g with pending := .none }) first read
      · rw [Piece.arguments, List.cons_append, fill, Argument.ofText_budget]
        dsimp only
        rw [addOption_budget stands allowed]
        change fill verb false { g with pending := .budget none } (value :: rest) = _
        rw [fill, Argument.ofText_of_isPlain plain]
        rfl

namespace Takes

variable (takes : Takes verb f piece g) (waits : piece ≠ .switch)
include takes waits

theorem switched : Takes verb { f with noWait := true } piece { g with noWait := true } := by
  cases takes with
  | switch => exact absurd rfl waits
  | word next plain read => exact word (f := { f with noWait := true }) next plain read
  | budget allowed first plain read =>
    exact budget (f := { f with noWait := true }) allowed first plain read

theorem noWait_eq : g.noWait = f.noWait := by
  cases takes with
  | switch => exact absurd rfl waits
  | word => rfl
  | budget => rfl

end Takes

/-! ### All pieces -/

/-- What pieces make of a filling, one after another. -/
inductive TakesAll (verb : Verb) : Filling → List Piece → Filling → Prop where
  | nil {f : Filling} : TakesAll verb f [] f
  | cons {f g h : Filling} {piece : Piece} {pieces : List Piece} (first : Takes verb f piece g)
      (rest : TakesAll verb g pieces h) : TakesAll verb f (piece :: pieces) h

namespace TakesAll

/-- **All steps.** Arguments are filled in to what their pieces make of a filling. -/
theorem fill_eq (all : TakesAll verb g pieces g') (stands : f.StandsFor g) :
    fill verb false f (pieces.flatMap Piece.arguments) = .ok g' := by
  induction all generalizing f with
  | nil =>
    rw [List.flatMap_nil, fill]
    exact stands.settles
  | cons first rest ih =>
    obtain ⟨f', stands', led⟩ := stands.step first
    rw [List.flatMap_cons, led]
    exact ih stands'

/-- Pieces other than switches take a filling with the switch to one with the switch. -/
theorem switched (all : TakesAll verb f pieces g) (waits : .switch ∉ pieces) :
    TakesAll verb { f with noWait := true } pieces { g with noWait := true } := by
  induction all with
  | nil => exact .nil
  | cons first rest ih =>
    rw [List.mem_cons, not_or] at waits
    exact .cons (first.switched (Ne.symm waits.1)) (ih waits.2)

/-- A switch can be put in anywhere. -/
theorem insert_switch (all : TakesAll verb f (before ++ after) g) (waits : .switch ∉ before ++ after)
    (unset : f.noWait = false) :
    TakesAll verb f (before ++ .switch :: after) { g with noWait := true } := by
  induction before generalizing f with
  | nil => exact .cons (.switch unset) (all.switched waits)
  | cons piece before ih =>
    rw [List.cons_append, List.mem_cons, not_or] at waits
    cases all with
    | cons first rest =>
      have unset := (first.noWait_eq (Ne.symm waits.1)).trans unset
      exact .cons first (ih rest waits.2 unset)

end TakesAll

end Filling

end VirtLifecycle.CommandLine
