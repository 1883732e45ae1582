/-
Module: VirtLifecycle.Proofs.Config.Variables
Purpose: What one variable of the configuration makes of its text. A variable gives a namespace, a switch or
  a span of whole seconds, or it refuses the text; it is read as what it gives, and its fault is the reason
  for which it refuses. A variable that is not set has its standard value.
Main exports: Config.Variable.Value, Config.field, Config.Variable.Gives, Config.Variable.Refuses,
  Config.Variable.read_eq_ok_iff, Config.Variable.read_eq_error_iff
-/
import VirtLifecycle.Config
import VirtLifecycle.Proofs.Decimal.Count
import VirtLifecycle.Proofs.Except

namespace VirtLifecycle.Config

open Text (IsCore HasBareEnds)

/-! ### Variables and what they hold -/

/-- What a variable holds. -/
abbrev Variable.Value : Variable → Type
  | space => String
  | wait => Bool
  | pause | virtualMachineCreate | instanceCreate | replicaSetCreate | dataVolumeCreate | delete =>
    Duration

/-- The value that a variable holds of a configuration. -/
def field (config : Config) : (v : Variable) → v.Value
  | .space => config.space
  | .wait => config.wait
  | .pause => config.pause
  | .virtualMachineCreate => config.timeouts.virtualMachineCreate
  | .instanceCreate => config.timeouts.instanceCreate
  | .replicaSetCreate => config.timeouts.replicaSetCreate
  | .dataVolumeCreate => config.timeouts.dataVolumeCreate
  | .delete => config.timeouts.delete

/-- The text spells a number of seconds, with blanks around it. -/
def SpellsSeconds (text : String) (n : Nat) : Prop :=
  ∃ word, IsCore text word ∧ Count.Spells word n

namespace Variable

/-- The text gives the variable this value. -/
def Gives : (v : Variable) → String → v.Value → Prop
  | space, text, given => IsCore text given ∧ given ≠ ""
  | wait, text, given =>
    ∃ word, IsCore text word ∧ Kind.lowerCase word ∈ if given then trueWords else falseWords
  | pause, text, given => ∃ n, SpellsSeconds text n ∧ n ≠ 0 ∧ given = .ofSeconds n
  | virtualMachineCreate, text, given | instanceCreate, text, given | replicaSetCreate, text, given
  | dataVolumeCreate, text, given | delete, text, given =>
    ∃ n, SpellsSeconds text n ∧ given = .ofSeconds n

/-- The variable is not set, or its text gives it a value. -/
def IsValid (v : Variable) (raw : Option String) : Prop :=
  ∀ text, raw = some text → ∃ given, v.Gives text given

/-- The variable has the value that its text gives, or the standard one if it is not set. -/
def Holds (v : Variable) : Option String → v.Value → Prop
  | none, given => given = standard.field v
  | some text, given => v.Gives text given

/-- The variable holds a number of seconds. -/
def IsTimed : Variable → Prop
  | space | wait => False
  | _ => True

/-- The text gives the variable no value, for this reason. -/
inductive Refuses : Variable → String → ConfigFault → Prop where
  | blank {text : String} (core : IsCore text "") : Refuses space text (.emptyNamespace space.name)
  | unknown {text word : String} (core : IsCore text word)
      (other : Kind.lowerCase word ∉ trueWords ++ falseWords) :
      Refuses wait text (.notBoolean wait.name text)
  | unspelled {v : Variable} {text word : String} {fault : Count.Fault} (timed : v.IsTimed)
      (core : IsCore text word) (fails : Count.ofText word = .error fault) :
      Refuses v text (.notSeconds v.name text fault)
  | zero {text : String} (none : SpellsSeconds text 0) : Refuses pause text (.zeroPause pause.name)

/-- Reads the value of a variable. -/
def read : (v : Variable) → Option String → Except ConfigFault v.Value
  | space, raw => readSpace raw
  | wait, raw => readSwitch raw
  | pause, raw => readPause raw
  | virtualMachineCreate, raw =>
    readSeconds virtualMachineCreate Timeouts.standard.virtualMachineCreate raw
  | instanceCreate, raw => readSeconds instanceCreate Timeouts.standard.instanceCreate raw
  | replicaSetCreate, raw => readSeconds replicaSetCreate Timeouts.standard.replicaSetCreate raw
  | dataVolumeCreate, raw => readSeconds dataVolumeCreate Timeouts.standard.dataVolumeCreate raw
  | delete, raw => readSeconds delete Timeouts.standard.delete raw

end Variable

/-! ### Reading one variable -/

section Reading

variable {text : String} {fault : ConfigFault}

/-- A namespace is accepted just if blanks removed leave something, and this is what is given. -/
theorem readSpace_eq_ok_iff {given : String} :
    readSpace (some text) = .ok given ↔ Variable.space.Gives text given := by
  rw [Variable.Gives, Text.isCore_iff]
  unfold readSpace
  dsimp only
  split
  · rename_i empty
    refine iff_of_false nofun ?_
    rintro ⟨rfl, some⟩
    exact some (String.isEmpty_iff.mp empty)
  · rename_i some
    rw [Except.ok.injEq]
    refine (and_iff_left_of_imp ?_).symm
    rintro same rfl
    exact some (String.isEmpty_iff.mpr same)

theorem readSpace_eq_error_iff :
    readSpace (some text) = .error fault ↔ Variable.space.Refuses text fault := by
  unfold readSpace
  dsimp only
  split
  · rename_i empty
    have core : IsCore text "" := Text.isCore_iff.mpr (String.isEmpty_iff.mp empty)
    constructor
    · rintro ⟨⟩
      exact .blank core
    · rintro (_ | _ | ⟨⟨⟩⟩)
      rfl
  · rename_i some
    refine iff_of_false nofun ?_
    rintro (⟨core⟩ | _ | ⟨⟨⟩⟩)
    exact some (String.isEmpty_iff.mpr (Text.isCore_iff.mp core))

/-- No word turns a switch both on and off. -/
theorem not_mem_falseWords {word : String} (on : word ∈ trueWords) : word ∉ falseWords := by
  have apart : ∀ word ∈ trueWords, word ∉ falseWords := by decide
  exact apart word on

/-- A switch is accepted just for the words that stand for it, in any case and between blanks. -/
theorem readSwitch_eq_ok_iff {given : Bool} :
    readSwitch (some text) = .ok given ↔ Variable.wait.Gives text given := by
  simp only [Variable.Gives, Text.isCore_iff, exists_eq_left']
  unfold readSwitch
  dsimp only
  split
  · rename_i on
    cases given with
    | true => exact iff_of_true rfl on
    | false => exact iff_of_false nofun (not_mem_falseWords on)
  · rename_i notOn
    split
    · rename_i off
      cases given with
      | true => exact iff_of_false nofun notOn
      | false => exact iff_of_true rfl off
    · rename_i notOff
      cases given with
      | true => exact iff_of_false nofun notOn
      | false => exact iff_of_false nofun notOff

/-- A switch is refused just for a text that is none of these words, which the refusal repeats as it was
given. -/
theorem readSwitch_eq_error_iff :
    readSwitch (some text) = .error fault ↔ Variable.wait.Refuses text fault := by
  have refused (word : String) (known : Kind.lowerCase word ∈ trueWords ∨ Kind.lowerCase word ∈ falseWords)
      (core : Text.trim text = word) : ¬ Variable.wait.Refuses text fault := by
    rintro (_ | ⟨core', other⟩ | ⟨⟨⟩⟩)
    rw [← Text.isCore_iff.mp core', core] at other
    exact other (List.mem_append.mpr known)
  unfold readSwitch
  dsimp only
  split
  · exact iff_of_false nofun (refused _ (.inl ‹_›) rfl)
  · split
    · exact iff_of_false nofun (refused _ (.inr ‹_›) rfl)
    · rename_i notOn notOff
      constructor
      · rintro ⟨⟩
        exact .unknown (Text.isCore_trim text) fun known => (List.mem_append.mp known).elim notOn notOff
      · rintro (_ | _ | ⟨⟨⟩⟩)
        rfl

variable {v : Variable} {default given : Duration}

theorem readSeconds_eq_ok_iff :
    readSeconds v default (some text) = .ok given ↔
      ∃ n, SpellsSeconds text n ∧ given = .ofSeconds n := by
  simp only [SpellsSeconds, Text.isCore_iff, ← Count.ofText_eq_ok_iff, exists_eq_left']
  unfold readSeconds
  dsimp only
  cases Count.ofText (Text.trim text) with
  | error fault => exact iff_of_false nofun fun ⟨n, read, _⟩ => nomatch read
  | ok n =>
    constructor
    · rintro ⟨⟩
      exact ⟨n, rfl, rfl⟩
    · rintro ⟨n, ⟨⟩, rfl⟩
      rfl

/-- A number of seconds is refused just if the text without blanks is no number; the refusal names the
variable, the text as it was given and the first fault in it. -/
theorem readSeconds_eq_error_iff :
    readSeconds v default (some text) = .error fault ↔
      ∃ word cause, IsCore text word ∧ Count.ofText word = .error cause ∧
        fault = .notSeconds v.name text cause := by
  simp only [Text.isCore_iff, exists_and_left, exists_eq_left']
  unfold readSeconds
  dsimp only
  cases Count.ofText (Text.trim text) with
  | ok n => exact iff_of_false nofun fun ⟨cause, read, _⟩ => nomatch read
  | error cause =>
    constructor
    · rintro ⟨⟩
      exact ⟨cause, rfl, rfl⟩
    · rintro ⟨cause, ⟨⟩, rfl⟩
      rfl

theorem isZero_ofSeconds_iff (n : Nat) : (Duration.ofSeconds n).isZero = true ↔ n = 0 := by
  rw [Duration.isZero, beq_iff_eq, Duration.ofSeconds, Duration.nanos_ofNanos]
  have second : 0 < Duration.secondNanos := by decide
  have longest : 0 < Duration.maxNanos := by decide
  constructor
  · intro zero
    rcases Nat.min_eq_zero_iff.mp zero with zero | zero
    · exact (Nat.mul_eq_zero.mp zero).resolve_right (Nat.ne_of_gt second)
    · exact absurd zero (Nat.ne_of_gt longest)
  · rintro rfl
    rw [Nat.zero_mul, Nat.zero_min]

theorem readPause_eq_ok_iff :
    readPause (some text) = .ok given ↔ Variable.pause.Gives text given := by
  rw [readPause, Except.bind_eq_ok_iff, Variable.Gives]
  simp only [readSeconds_eq_ok_iff]
  constructor
  · rintro ⟨pause, ⟨n, spelled, rfl⟩, checked⟩
    split at checked
    · cases checked
    · rename_i positive
      cases checked
      exact ⟨n, spelled, fun zero => positive ((isZero_ofSeconds_iff n).mpr zero), rfl⟩
  · rintro ⟨n, spelled, positive, rfl⟩
    exact ⟨_, ⟨n, spelled, rfl⟩, if_neg fun zero => positive ((isZero_ofSeconds_iff n).mp zero)⟩

/-- A pause is refused just if the text spells no number, or zero; the two refusals differ. -/
theorem readPause_eq_error_iff :
    readPause (some text) = .error fault ↔ Variable.pause.Refuses text fault := by
  rw [readPause, Except.bind_eq_error_iff]
  simp only [readSeconds_eq_ok_iff, readSeconds_eq_error_iff]
  constructor
  · rintro (⟨word, cause, core, fails, rfl⟩ | ⟨pause, ⟨n, spelled, rfl⟩, checked⟩)
    · exact .unspelled trivial core fails
    · split at checked
      · rename_i zero
        cases checked
        exact .zero ((isZero_ofSeconds_iff n).mp zero ▸ spelled)
      · cases checked
  · rintro (_ | _ | ⟨-, core, fails⟩ | ⟨spelled⟩)
    · exact .inl ⟨_, _, core, fails, rfl⟩
    · exact .inr ⟨_, ⟨0, spelled, rfl⟩, if_pos rfl⟩

end Reading

namespace Variable

variable {v : Variable} {text : String}

/-- A variable that is not set gives the field the value it has in the standard configuration. -/
theorem read_none (v : Variable) : v.read none = .ok (standard.field v) := by
  cases v <;> rfl

/-- A variable is read as what its text gives. -/
theorem read_eq_ok_iff {given : v.Value} : v.read (some text) = .ok given ↔ v.Gives text given := by
  cases v with
  | space => exact readSpace_eq_ok_iff
  | wait =>
    rw [read]
    exact readSwitch_eq_ok_iff
  | pause =>
    rw [read]
    exact readPause_eq_ok_iff
  | virtualMachineCreate | instanceCreate | replicaSetCreate | dataVolumeCreate | delete =>
    rw [read]
    exact readSeconds_eq_ok_iff

/-- A time budget, other than the pause, is only refused for not being a number: zero seconds are a budget.
-/
theorem refuses_iff_of_isBudget {fault : ConfigFault} (timed : v.IsTimed) (budget : v ≠ pause) :
    v.Refuses text fault ↔ ∃ word cause, IsCore text word ∧ Count.ofText word = .error cause ∧
      fault = .notSeconds v.name text cause := by
  constructor
  · rintro (_ | _ | ⟨-, core, fails⟩ | _)
    · cases timed
    · cases timed
    · exact ⟨_, _, core, fails, rfl⟩
    · exact absurd rfl budget
  · rintro ⟨word, cause, core, fails, rfl⟩
    exact .unspelled timed core fails

/-- A variable is faulty for the reason for which its text gives nothing. -/
theorem read_eq_error_iff {fault : ConfigFault} :
    v.read (some text) = .error fault ↔ v.Refuses text fault := by
  cases v with
  | space => exact readSpace_eq_error_iff
  | wait =>
    rw [read]
    exact readSwitch_eq_error_iff
  | pause =>
    rw [read]
    exact readPause_eq_error_iff
  | virtualMachineCreate | instanceCreate | replicaSetCreate | dataVolumeCreate | delete =>
    rw [read, readSeconds_eq_error_iff]
    refine (refuses_iff_of_isBudget ?_ ?_).symm
    · exact trivial
    · exact nofun

theorem read_eq_ok_iff_holds {raw : Option String} {given : v.Value} :
    v.read raw = .ok given ↔ v.Holds raw given := by
  cases raw with
  | none =>
    rw [read_none, Except.ok.injEq, Holds]
    exact eq_comm
  | some text => exact read_eq_ok_iff

theorem isValid_iff {raw : Option String} : v.IsValid raw ↔ ∃ given, v.read raw = .ok given := by
  cases raw with
  | none => exact iff_of_true nofun ⟨_, v.read_none⟩
  | some text =>
    simp only [read_eq_ok_iff]
    exact ⟨fun valid => valid text rfl, fun gives text' same => Option.some.inj same ▸ gives⟩

end Variable

end VirtLifecycle.Config
