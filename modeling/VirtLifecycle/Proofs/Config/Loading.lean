/-
Module: VirtLifecycle.Proofs.Config.Loading
Purpose: Configurations as their variables make them. A configuration is accepted if all of its variables
  are valid, and then each of its values is the one that its own variable has. Otherwise the first variable
  that is not valid is reported. An accepted configuration can be written into its variables, which make it
  again.
Main exports: Config.FirstRefusal, Config.toLookup, Config.loaded_by_variables
-/
import VirtLifecycle.Proofs.Config.Variables

namespace VirtLifecycle.Config

open Text (IsCore HasBareEnds)

variable {lookup : Lookup} {config : Config} {fault : ConfigFault}

/-! ### The values of a configuration -/

/-- Each value of a configuration that is read comes from the variable of its own. -/
theorem ofLookup?_eq_ok_iff :
    ofLookup? lookup = .ok config ↔ ∀ v : Variable, v.read (lookup v.name) = .ok (config.field v) := by
  unfold ofLookup?
  simp only [Except.bind_eq_ok_iff]
  constructor
  · rintro ⟨space, hSpace, wait, hWait, pause, hPause, machine, hMachine, running, hRunning, set, hSet,
      disk, hDisk, delete, hDelete, ⟨⟩⟩ v
    cases v with
    | space => exact hSpace
    | wait => exact hWait
    | pause => exact hPause
    | virtualMachineCreate => exact hMachine
    | instanceCreate => exact hRunning
    | replicaSetCreate => exact hSet
    | dataVolumeCreate => exact hDisk
    | delete => exact hDelete
  · intro read
    exact ⟨_, read .space, _, read .wait, _, read .pause, _, read .virtualMachineCreate,
      _, read .instanceCreate, _, read .replicaSetCreate, _, read .dataVolumeCreate, _, read .delete, rfl⟩

/-- Wrapping the refusal into an error of operations changes nothing about what is accepted. -/
theorem ofLookup_eq_ok_iff : ofLookup lookup = .ok config ↔ ofLookup? lookup = .ok config :=
  Except.mapError_eq_ok_iff _ _ _

/-- Any values of the variables make a configuration. -/
theorem exists_field_eq (given : (v : Variable) → v.Value) : ∃ config : Config, config.field = given := by
  refine ⟨⟨given .space, given .wait, given .pause, ⟨given .virtualMachineCreate, given .instanceCreate,
    given .replicaSetCreate, given .dataVolumeCreate, given .delete⟩⟩, ?_⟩
  funext v
  cases v <;> rfl

/-- A configuration is accepted as the one whose values the variables have. -/
theorem ofLookup_eq_ok_iff_holds :
    ofLookup lookup = .ok config ↔ ∀ v : Variable, v.Holds (lookup v.name) (config.field v) := by
  simp only [ofLookup_eq_ok_iff, ofLookup?_eq_ok_iff, Variable.read_eq_ok_iff_holds]

/-- A configuration is accepted if all variables are valid. -/
theorem accepted_iff_isValid :
    (∃ config, ofLookup lookup = .ok config) ↔ ∀ v : Variable, v.IsValid (lookup v.name) := by
  simp only [ofLookup_eq_ok_iff, ofLookup?_eq_ok_iff, Variable.isValid_iff]
  constructor
  · rintro ⟨config, read⟩ v
    exact ⟨config.field v, read v⟩
  · intro valid
    obtain ⟨given, read⟩ := Classical.axiomOfChoice valid
    obtain ⟨config, rfl⟩ := exists_field_eq given
    exact ⟨config, read⟩

/-! ### The first fault -/

/-- The first of these variables that is not valid refuses its text for this reason. -/
def FirstRefusal (lookup : Lookup) (vs : List Variable) (fault : ConfigFault) : Prop :=
  ∃ before v after text, vs = before ++ v :: after ∧ (∀ u ∈ before, u.IsValid (lookup u.name)) ∧
    lookup v.name = some text ∧ v.Refuses text fault

/-- The first variable of a list is faulty, or it is valid and the fault is in the rest. -/
theorem firstRefusal_cons_iff {v : Variable} {vs : List Variable} :
    FirstRefusal lookup (v :: vs) fault ↔
      v.read (lookup v.name) = .error fault ∨
        v.IsValid (lookup v.name) ∧ FirstRefusal lookup vs fault := by
  constructor
  · rintro ⟨before, u, after, text, whole, valid, set, refuses⟩
    cases before with
    | nil =>
      cases whole
      exact .inl (set ▸ Variable.read_eq_error_iff.mpr refuses)
    | cons w before =>
      cases whole
      have ⟨head, tail⟩ := List.forall_mem_cons.mp valid
      exact .inr ⟨head, before, u, after, text, rfl, tail, set, refuses⟩
  · rintro (fails | ⟨head, before, u, after, text, rfl, tail, set, refuses⟩)
    · cases raw : lookup v.name with
      | none =>
        rw [raw, Variable.read_none] at fails
        cases fails
      | some text =>
        rw [raw, Variable.read_eq_error_iff] at fails
        exact ⟨[], v, vs, text, rfl, List.forall_mem_nil _, raw, fails⟩
    · exact ⟨v :: before, u, after, text, rfl, List.forall_mem_cons.mpr ⟨head, tail⟩, set, refuses⟩

/-- Reading goes on after a variable with a valid one only, whatever it has. -/
theorem read_bind_eq_error_iff {α : Type} {v : Variable} {vs : List Variable}
    {next : v.Value → Except ConfigFault α}
    (rest : ∀ given, next given = .error fault ↔ FirstRefusal lookup vs fault) :
    v.read (lookup v.name) >>= next = .error fault ↔ FirstRefusal lookup (v :: vs) fault := by
  simp only [Except.bind_eq_error_iff, rest, exists_and_right, ← Variable.isValid_iff,
    firstRefusal_cons_iff]

/-- The variables are read in their order, and the first fault is reported. -/
theorem ofLookup?_eq_error_iff :
    ofLookup? lookup = .error fault ↔ FirstRefusal lookup Variable.all fault := by
  unfold ofLookup?
  refine read_bind_eq_error_iff (v := .space) fun space => ?_
  refine read_bind_eq_error_iff (v := .wait) fun wait => ?_
  refine read_bind_eq_error_iff (v := .pause) fun pause => ?_
  refine read_bind_eq_error_iff (v := .virtualMachineCreate) fun machine => ?_
  refine read_bind_eq_error_iff (v := .instanceCreate) fun running => ?_
  refine read_bind_eq_error_iff (v := .replicaSetCreate) fun set => ?_
  refine read_bind_eq_error_iff (v := .dataVolumeCreate) fun disk => ?_
  refine read_bind_eq_error_iff (v := .delete) fun delete => ?_
  -- nothing is left to read
  refine iff_of_false nofun ?_
  rintro ⟨before, v, after, text, none, -⟩
  exact List.append_ne_nil_of_right_ne_nil before (List.cons_ne_nil v after) none.symm

/-- The configuration is refused for the first variable, in the fixed order, that refuses its text, and with
no other error. -/
theorem ofLookup_eq_error_iff {error : LifecycleError} :
    ofLookup lookup = .error error ↔
      ∃ fault, error = .invalidConfig fault ∧ FirstRefusal lookup Variable.all fault := by
  rw [ofLookup, Except.mapError_eq_error_iff]
  simp only [ofLookup?_eq_error_iff, and_comm]

/-! ### Configurations as variables -/

/-- The text of a value. -/
def Variable.render : (v : Variable) → v.Value → String
  | space, given => given
  | wait, given => if given then "true" else "false"
  | pause, given | virtualMachineCreate, given | instanceCreate, given | replicaSetCreate, given
  | dataVolumeCreate, given | delete, given => Count.text given.seconds

/-- The variables that hold a configuration. -/
def toLookup (config : Config) : Lookup := fun name =>
  (Variable.all.find? fun v => v.name = name).map fun v => v.render (config.field v)

/-- Different variables have different names, so no two fields are read from one text. -/
theorem Variable.name_injective {u v : Variable} (same : u.name = v.name) : u = v := by
  revert same
  cases u <;> cases v <;> simp [name]

theorem Variable.mem_all (v : Variable) : v ∈ all := by
  cases v <;> decide

/-- In the lookup of a configuration each variable is set, to the rendering of its own field. -/
theorem toLookup_name (config : Config) (v : Variable) :
    config.toLookup v.name = some (v.render (config.field v)) := by
  rw [toLookup]
  cases found : Variable.all.find? fun u => u.name = v.name with
  | none => exact absurd (decide_eq_true rfl) (List.find?_eq_none.mp found v v.mem_all)
  | some u =>
    have holds := List.find?_some found
    have same : u = v := Variable.name_injective (of_decide_eq_true holds)
    rw [same, Option.map_some]

/-- A number of seconds that can be read is not too long a span. -/
theorem seconds_ofSeconds {n : Nat} (fits : n < Count.limit) : (Duration.ofSeconds n).seconds = n := by
  have second : 0 < Duration.secondNanos := by decide
  have short : n * Duration.secondNanos ≤ Duration.maxNanos := by
    unfold Count.limit at fits
    unfold Duration.secondNanos Duration.maxNanos Duration.secondNanos
    omega
  rw [Duration.seconds, Duration.ofSeconds, Duration.nanos_ofNanos_of_le short,
    Nat.mul_div_cancel n second]

/-- The seconds of a span spell it again. -/
theorem spellsSeconds_seconds {n : Nat} (fits : n < Count.limit) :
    SpellsSeconds (Count.text (Duration.ofSeconds n).seconds) n := by
  rw [seconds_ofSeconds fits]
  exact ⟨Count.text n, Text.isCore_self (Count.hasBareEnds_text n), Count.spells_text fits⟩

theorem SpellsSeconds.again {text : String} {n : Nat} (spelled : SpellsSeconds text n) :
    SpellsSeconds (Count.text (Duration.ofSeconds n).seconds) n := by
  obtain ⟨word, _, spells⟩ := spelled
  exact spellsSeconds_seconds spells.fits

namespace Variable

variable {v : Variable}

theorem gives_render_wait (given : Bool) : wait.Gives (wait.render given) given := by
  cases given with
  | true => exact ⟨"true", Text.isCore_iff.mpr (by decide +kernel), by decide⟩
  | false => exact ⟨"false", Text.isCore_iff.mpr (by decide +kernel), by decide⟩

/-- What a text gives is given by its own text. -/
theorem gives_render {text : String} {given : v.Value} (gives : v.Gives text given) :
    v.Gives (v.render given) given := by
  cases v with
  | space => exact ⟨Text.isCore_self gives.1.bare, gives.2⟩
  | wait => exact gives_render_wait given
  | pause =>
    obtain ⟨n, spelled, positive, rfl⟩ := gives
    exact ⟨n, spelled.again, positive, rfl⟩
  | virtualMachineCreate | instanceCreate | replicaSetCreate | dataVolumeCreate | delete =>
    obtain ⟨n, spelled, rfl⟩ := gives
    exact ⟨n, spelled.again, rfl⟩

/-- So is what a variable has that is not set. -/
theorem gives_render_standard (v : Variable) : v.Gives (v.render (standard.field v)) (standard.field v) := by
  cases v with
  | space => exact ⟨Text.isCore_iff.mpr (by decide +kernel), by decide⟩
  | wait => exact gives_render_wait true
  | pause => exact ⟨2, spellsSeconds_seconds (by decide), by decide, rfl⟩
  | virtualMachineCreate => exact ⟨20 * 60, spellsSeconds_seconds (by decide), rfl⟩
  | instanceCreate | replicaSetCreate => exact ⟨40 * 60, spellsSeconds_seconds (by decide), rfl⟩
  | dataVolumeCreate | delete => exact ⟨5 * 60, spellsSeconds_seconds (by decide), rfl⟩

/-- Whatever a variable has is given by a text. -/
theorem Holds.gives_render {raw : Option String} {given : v.Value} (holds : v.Holds raw given) :
    v.Gives (v.render given) given := by
  cases raw with
  | none =>
    cases holds
    exact v.gives_render_standard
  | some text => exact Variable.gives_render holds

end Variable

/-- An accepted configuration is made again from the variables that hold it. -/
theorem ofLookup_toLookup (accepted : ofLookup lookup = .ok config) :
    ofLookup config.toLookup = .ok config := by
  rw [ofLookup_eq_ok_iff_holds] at accepted ⊢
  intro v
  rw [toLookup_name]
  exact (accepted v).gives_render

/-! ### Accepted configurations -/

/-- The namespace of an accepted configuration is what a text gives. -/
theorem space_of_ofLookup (accepted : ofLookup lookup = .ok config) :
    config.space ≠ "" ∧ HasBareEnds config.space.toList := by
  have gives := (ofLookup_eq_ok_iff_holds.mp accepted .space).gives_render
  exact ⟨gives.2, gives.1.bare⟩

/-- A configuration that is accepted has a namespace, which is why no operation under it fails for want of
one. -/
theorem space_ne_empty_of_ofLookup (accepted : ofLookup lookup = .ok config) : config.space ≠ "" :=
  (space_of_ofLookup accepted).1

/-- The pause of an accepted configuration is of at least one second. -/
theorem second_le_pause_of_ofLookup (accepted : ofLookup lookup = .ok config) :
    Duration.secondNanos ≤ config.pause.nanos := by
  have longest : Duration.secondNanos ≤ Duration.maxNanos := by decide
  obtain ⟨n, _, positive, pause⟩ := (ofLookup_eq_ok_iff_holds.mp accepted .pause).gives_render
  have same : config.pause = Duration.ofSeconds n := pause
  rw [same, Duration.ofSeconds, Duration.nanos_ofNanos]
  exact Nat.le_min.mpr ⟨Nat.le_mul_of_pos_left _ (Nat.pos_of_ne_zero positive), longest⟩

/-- Accepted configurations look again after a pause above zero. -/
theorem pause_pos_of_ofLookup (accepted : ofLookup lookup = .ok config) : 0 < config.pause.nanos :=
  Nat.lt_of_lt_of_le (by decide) (second_le_pause_of_ofLookup accepted)

/-- Two accepted configurations have the same value where their variables agree. -/
theorem field_eq_of_ofLookup {lookup' : Lookup} {config' : Config}
    (accepted : ofLookup lookup = .ok config) (accepted' : ofLookup lookup' = .ok config') (v : Variable)
    (agree : lookup v.name = lookup' v.name) : config.field v = config'.field v := by
  rw [ofLookup_eq_ok_iff, ofLookup?_eq_ok_iff] at accepted accepted'
  have first := accepted v
  rw [agree, accepted' v] at first
  exact (Except.ok.inj first).symm

/-- **A configuration is what its variables make it.** It is accepted if they are all valid, and each of its
values is then the one that its own variable has; otherwise the first variable that is not valid is
reported. Accepted configurations have a namespace with no blanks around it, pause for at least a second,
and can be written into variables and read again. -/
theorem loaded_by_variables (lookup : Lookup) :
    ((∃ config, ofLookup lookup = .ok config) ↔ ∀ v : Variable, v.IsValid (lookup v.name)) ∧
    (∀ config, ofLookup lookup = .ok config ↔
      ∀ v : Variable, v.Holds (lookup v.name) (config.field v)) ∧
    (∀ config, ofLookup lookup = .ok config →
      (config.space ≠ "" ∧ HasBareEnds config.space.toList) ∧
      Duration.secondNanos ≤ config.pause.nanos ∧
      ofLookup config.toLookup = .ok config ∧
      ∀ (lookup' : Lookup) (config' : Config), ofLookup lookup' = .ok config' →
        ∀ v : Variable, lookup v.name = lookup' v.name → config.field v = config'.field v) ∧
    (∀ error, ofLookup lookup = .error error ↔
      ∃ fault, error = .invalidConfig fault ∧ FirstRefusal lookup Variable.all fault) := by
  refine ⟨accepted_iff_isValid, fun config => ofLookup_eq_ok_iff_holds, ?_,
    fun error => ofLookup_eq_error_iff⟩
  intro config accepted
  exact ⟨space_of_ofLookup accepted, second_le_pause_of_ofLookup accepted, ofLookup_toLookup accepted,
    fun lookup' config' accepted' v agree => field_eq_of_ofLookup accepted accepted' v agree⟩

/-- Variables with blanks around their texts, most of them not set. -/
def overrides : Lookup := fun name =>
  [("KUBEVIRT_NAMESPACE", " vms "), ("KUBEVIRT_WAIT", "No\t"), ("KUBEVIRT_VM_CREATE_TIMEOUT_SECS", "\n+60")]
    |>.lookup name

/-- The configuration that these variables make. -/
def overridden : Config :=
  { standard with
    space := "vms", wait := false,
    timeouts := { Timeouts.standard with virtualMachineCreate := .ofSeconds 60 } }

/-- A switch that is neither on nor off, and a pause of no time. -/
def unusable : Lookup := fun name =>
  [("KUBEVIRT_POLL_INTERVAL_SECS", "0"), ("KUBEVIRT_WAIT", " maybe")].lookup name

/-- Some variables set with blanks and capitals, one of them left out; and two that are unusable, of which
the first one is reported. -/
theorem loaded_by_variables_of_overrides :
    ofLookup overrides = .ok overridden ∧
    (∀ v : Variable, v.IsValid (overrides v.name)) ∧
    ofLookup overridden.toLookup = .ok overridden ∧
    overridden.field .delete = standard.field .delete ∧
    FirstRefusal unusable Variable.all (.notBoolean "KUBEVIRT_WAIT" " maybe") := by
  have loaded : ofLookup overrides = .ok overridden := by decide +kernel
  have unset : ofLookup (fun _ => none) = .ok standard := rfl
  have refused : ofLookup unusable = .error (.invalidConfig (.notBoolean "KUBEVIRT_WAIT" " maybe")) := by
    decide +kernel
  obtain ⟨accepted, _, made, _⟩ := loaded_by_variables overrides
  obtain ⟨_, _, again, agree⟩ := made overridden loaded
  obtain ⟨_, _, _, rejected⟩ := loaded_by_variables unusable
  obtain ⟨fault, same, first⟩ := (rejected _).mp refused
  refine ⟨loaded, accepted.mp ⟨overridden, loaded⟩, again, agree _ standard unset .delete rfl, ?_⟩
  cases same
  exact first

end VirtLifecycle.Config
