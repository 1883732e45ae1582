/-
Module: VirtLifecycle.Proofs.Cluster.Events
Purpose: All that can be done to a cluster in memory, and what each event does to it. An event is an
  action with its answer, and its effect is told from these two: a change under one id, readings that
  are scripted or used, a failure that is arranged or met, and the counts.
Main exports: Action, Cluster.act, Event, Event.change?, Cluster.Effect, Cluster.effect_act
-/
import VirtLifecycle.Proofs.Cluster.Writes

namespace VirtLifecycle

/-- The id that the metadata of an object give it; without a namespace it is in the empty one. -/
def Resource.ownId {kind : Kind} (object : Resource kind) : ResourceId :=
  ⟨object.metadata.space.getD "", object.metadata.anyName⟩

/-- What can be done to a cluster in memory. -/
inductive Action where
  /-- puts an object in, without a call -/
  | add {kind : Kind} (object : Resource kind)
  | script {kind : Kind} (id : ResourceId) (readings : List (Reading kind))
  /-- asks whether an object is there, without a call -/
  | holds (kind : Kind) (id : ResourceId)
  /-- lets the next write fail -/
  | arm (message : String)
  | call (call : Call)

/-- What an action is answered with. -/
abbrev Action.Answer : Action → Type
  | .add _ | .script _ _ | .arm _ => Unit
  | .holds _ _ => Bool
  | .call made => made.Reply

/-- Does an action. -/
def Cluster.act (c : Cluster) : (action : Action) → action.Answer × Cluster
  | .add object => ((), c.add object)
  | .script id readings => ((), c.script id readings)
  | .holds kind id => (c.holds kind id, c)
  | .arm message => ((), c.arm message)
  | .call call => c.answer call

/-- An action with the answer that it got. -/
structure Event where
  action : Action
  answer : action.Answer

/-- What is left under an id of a kind: an object, or none. -/
structure Change where
  kind : Kind
  id : ResourceId
  left : Option (Resource kind)

/-- What the change leaves under the given id, if it is made there. -/
def Change.at? (change : Change) (kind : Kind) (id : ResourceId) : Option (Option (Resource kind)) :=
  if h : kind = change.kind ∧ id = change.id then some (h.1 ▸ change.left) else none

namespace Event

/-- What an event changes. A write changes something only if it is answered with a success. -/
def change? : Event → Option Change
  | ⟨.add object, _⟩ => some ⟨_, object.ownId, some object⟩
  | ⟨.call (.create object), .ok _⟩ => some ⟨_, object.ownId, some object⟩
  | ⟨.call (.update kind id _), .ok patched⟩ => some ⟨kind, id, some patched⟩
  | ⟨.call (.delete kind id), .ok _⟩ => some ⟨kind, id, none⟩
  | _ => none

/-- The readings that an event scripts for gets of an object. -/
def readings (kind : Kind) (id : ResourceId) : Event → List (Reading kind)
  | ⟨@Action.script k i readings, _⟩ => if h : kind = k ∧ id = i then h.1 ▸ readings else []
  | _ => []

/-- The message of the failure that an event arranges. -/
def message? : Event → Option String
  | ⟨.arm message, _⟩ => some message
  | _ => none

def isRead : Event → Bool
  | ⟨.call call, _⟩ => call.isGet
  | _ => false

def isWrite : Event → Bool
  | ⟨.call call, _⟩ => !call.isGet
  | _ => false

/-- Whether the event is a get of the object. -/
def isGetOf (kind : Kind) (id : ResourceId) : Event → Bool
  | ⟨.call (.get k i), _⟩ => kind = k ∧ id = i
  | _ => false

theorem readings_of_isGetOf {kind : Kind} {id : ResourceId} {event : Event}
    (gets : event.isGetOf kind id = true) : event.readings kind id = [] := by
  obtain ⟨action, answer⟩ := event
  cases action with
  | call call => rfl
  | add | script | holds | arm => cases gets

end Event

namespace Cluster

/-- What an event does to a cluster. -/
structure Effect (event : Event) (before after : Cluster) : Prop where
  stored : ∀ kind id, after.stored kind id =
    (event.change?.bind (·.at? kind id)).getD (before.stored kind id)
  /-- a get uses the first scripted reading -/
  scripted : ∀ kind id, after.scripted kind id =
    if event.isGetOf kind id then (before.scripted kind id).tail
    else before.scripted kind id ++ event.readings kind id
  /-- a write meets the failure that is arranged -/
  armed : after.armed = if event.isWrite then none else event.message?.or before.armed
  reads : after.reads = before.reads + if event.isRead then 1 else 0
  writes : after.writes = before.writes + if event.isWrite then 1 else 0

variable (c : Cluster)

/-! ### How calls are answered -/

/-- A get is answered by the first scripted reading, if there is one, and else by what is stored. Neither
the failure that writes are armed with nor the counters have a say in it. -/
theorem answer_get (kind : Kind) (id : ResourceId) :
    (c.answer (.get kind id)).1 =
      match (c.scripted kind id).head? with
      | some reading => reading.reply
      | none => .ok (c.stored kind id) := by
  change (c.get kind id).1 = _
  cases readings : c.scripted kind id with
  | nil => simp only [get, readings, List.head?_nil]
  | cons reading rest => simp only [get, readings, List.head?_cons]

/-- A created object is stored under the id that its metadata give it. -/
theorem place_eq_ownId {kind : Kind} {object : Resource kind} {space : String}
    (named : object.metadata.space = some space) : place object space = object.ownId := by
  rw [Resource.ownId, named, place, Option.getD_some]

/-- What a create comes to, by the failure that is armed, the namespace of the object and what is stored
under its id, in this order. -/
theorem answer_create_eq {kind : Kind} (object : Resource kind) :
    c.answer (.create object) =
      match c.armed, object.metadata.space, c.stored kind object.ownId with
      | some message, _, _ => (.error (.rejected (.arranged message)), c.counted)
      | none, none, _ => (.error (.noNamespace object.metadata.anyName), c.counted)
      | none, some _, some _ => (.error (.rejected (.exists object.ownId)), c.counted)
      | none, some _, none => (.ok object, c.counted.store kind object.ownId (some object)) := by
  change c.write (·.create object) = _
  split
  · rename_i armed
    exact c.write_of_armed armed
  · rename_i armed unnamed
    apply c.write_of_error armed
    rw [create, unnamed]
  · rename_i armed named there
    apply c.write_of_error armed
    simp only [create, named, place_eq_ownId named, holds, counted, there, Option.isSome_some, if_true]
  · rename_i armed named free
    apply c.write_of_ok armed
    simp only [create, named, place_eq_ownId named, holds, counted, free, Option.isSome_none,
      Bool.false_eq_true, if_false]

/-- What an update comes to, by the failure that is armed, what is stored and what the patch makes of it, in
this order. -/
theorem answer_update_eq (kind : Kind) (id : ResourceId) (patch : Freeform) :
    c.answer (.update kind id patch) =
      match c.armed, c.stored kind id, (c.stored kind id).bind (patched? · patch) with
      | some message, _, _ => (.error (.rejected (.arranged message)), c.counted)
      | none, none, _ => (.error (.rejected (.absent id)), c.counted)
      | none, some _, none => (.error .undecodablePatch, c.counted)
      | none, some _, some patched => (.ok patched, c.counted.store kind id (some patched)) := by
  change c.write (·.update kind id patch) = _
  split
  · rename_i armed
    exact c.write_of_armed armed
  · rename_i armed missing
    apply c.write_of_error armed
    simp only [update, counted, missing]
  · rename_i armed there fails
    rw [there, Option.bind_some] at fails
    apply c.write_of_error armed
    simp only [update, counted, there, fails]
  · rename_i armed there applies
    rw [there, Option.bind_some] at applies
    apply c.write_of_ok armed
    simp only [update, counted, there, applies]

/-- What a deletion comes to, by the failure that is armed and what is stored, in this order. -/
theorem answer_delete_eq (kind : Kind) (id : ResourceId) :
    c.answer (.delete kind id) =
      match c.armed, c.stored kind id with
      | some message, _ => (.error (.rejected (.arranged message)), c.counted)
      | none, none => (.error (.rejected (.absent id)), c.counted)
      | none, some _ => (.ok (), c.counted.store kind id none) := by
  change c.write (·.delete kind id) = _
  split
  · rename_i armed
    exact c.write_of_armed armed
  · rename_i armed missing
    apply c.write_of_error armed
    simp only [delete, holds, counted, missing, Option.isSome_none, Bool.false_eq_true, if_false]
  · rename_i armed there
    apply c.write_of_ok armed
    simp only [delete, holds, counted, there, Option.isSome_some, if_true]

/-! ### What events do -/

/-- After a change is stored, it is found where it was made, and all else is as before. -/
theorem stored_store (change : Change) (kind : Kind) (id : ResourceId) :
    (c.store change.kind change.id change.left).stored kind id =
      (change.at? kind id).getD (c.stored kind id) := by
  simp only [store, setAt, Change.at?]
  split
  · rfl
  · rfl

/-- Adding an object changes what is stored under its own id, and counts as no write. -/
theorem effect_add {kind : Kind} (object : Resource kind) :
    Effect ⟨.add object, ()⟩ c (c.add object) where
  stored := c.stored_store ⟨kind, object.ownId, some object⟩
  scripted _ _ := (List.append_nil _).symm
  armed := rfl
  reads := rfl
  writes := rfl

/-- Scripting adds readings at the end of those of one object, and changes nothing else. -/
theorem effect_script {kind : Kind} (id : ResourceId) (readings : List (Reading kind)) :
    Effect ⟨.script id readings, ()⟩ c (c.script id readings) where
  stored _ _ := rfl
  scripted k i := by
    simp only [script, setAt, Event.isGetOf, Event.readings, Bool.false_eq_true, if_false]
    split
    · rename_i here
      obtain ⟨rfl, rfl⟩ := here
      rfl
    · exact (List.append_nil _).symm
  armed := rfl
  reads := rfl
  writes := rfl

theorem effect_holds (kind : Kind) (id : ResourceId) (there : Bool) :
    Effect ⟨.holds kind id, there⟩ c c where
  stored _ _ := rfl
  scripted _ _ := (List.append_nil _).symm
  armed := rfl
  reads := rfl
  writes := rfl

/-- Arming sets the failure that the next write meets; of two messages the later one counts. -/
theorem effect_arm (message : String) : Effect ⟨.arm message, ()⟩ c (c.arm message) where
  stored _ _ := rfl
  scripted _ _ := (List.append_nil _).symm
  armed := rfl
  reads := rfl
  writes := rfl

/-- A get counts as a read, uses up one scripted reading of its object if there is one, and changes nothing
else. -/
theorem effect_get (kind : Kind) (id : ResourceId) (reply : Call.Reply (.get kind id)) :
    Effect ⟨.call (.get kind id), reply⟩ c (c.answer (.get kind id)).2 := by
  change Effect _ c (c.get kind id).2
  cases readings : c.scripted kind id with
  | nil =>
    simp only [get, readings]
    refine ⟨fun _ _ => rfl, fun k i => ?_, rfl, rfl, rfl⟩
    simp only [Event.isGetOf, Event.readings, decide_eq_true_eq]
    split
    · rename_i here
      obtain ⟨rfl, rfl⟩ := here
      rw [readings, List.tail_nil]
    · exact (List.append_nil _).symm
  | cons reading rest =>
    simp only [get, readings]
    refine ⟨fun _ _ => rfl, fun k i => ?_, rfl, rfl, rfl⟩
    simp only [setAt, Event.isGetOf, Event.readings, decide_eq_true_eq]
    split
    · rename_i here
      obtain ⟨rfl, rfl⟩ := here
      rw [readings, List.tail_cons]
    · exact (List.append_nil _).symm

/-- A write that fails is counted and meets the arranged failure, and that is all. -/
theorem effect_refused {call : Call} (write : call.isGet = false) (cause : ClientError) :
    Effect ⟨.call call, .error cause⟩ c c.counted := by
  cases call with
  | get => cases write
  | create | update | delete =>
    exact ⟨fun _ _ => rfl, fun _ _ => (List.append_nil _).symm, rfl, rfl, rfl⟩

/-- A write that succeeds is counted and makes its change. -/
theorem effect_accepted (call : Call) (write : call.isGet = false) {answer : call.Answer}
    {change : Change} (changes : Event.change? ⟨.call call, .ok answer⟩ = some change) :
    Effect ⟨.call call, .ok answer⟩ c (c.counted.store change.kind change.id change.left) := by
  have stored := c.counted.stored_store change
  cases call with
  | get => cases write
  | create | update | delete =>
    refine ⟨fun kind id => ?_, fun _ _ => (List.append_nil _).symm, rfl, rfl, rfl⟩
    rw [changes]
    exact stored kind id

/-- What any call does is told by its event alone: what it stores, what it uses up, what it disarms and what
it counts. -/
theorem effect_answer (call : Call) : Effect ⟨.call call, (c.answer call).1⟩ c (c.answer call).2 := by
  cases call with
  | get kind id => exact c.effect_get kind id _
  | create object =>
    rw [answer_create_eq]
    split
    · exact c.effect_refused rfl _
    · exact c.effect_refused rfl _
    · exact c.effect_refused rfl _
    · exact c.effect_accepted (.create object) rfl rfl
  | update kind id patch =>
    rw [answer_update_eq]
    split
    · exact c.effect_refused rfl _
    · exact c.effect_refused rfl _
    · exact c.effect_refused rfl _
    · exact c.effect_accepted (.update kind id patch) rfl rfl
  | delete kind id =>
    rw [answer_delete_eq]
    split
    · exact c.effect_refused rfl _
    · exact c.effect_refused rfl _
    · exact c.effect_accepted (.delete kind id) rfl rfl

/-- What an action does is told by itself and its answer. -/
theorem effect_act (action : Action) : Effect ⟨action, (c.act action).1⟩ c (c.act action).2 := by
  cases action with
  | add object => exact c.effect_add object
  | script id readings => exact c.effect_script id readings
  | holds kind id => exact c.effect_holds kind id _
  | arm message => exact c.effect_arm message
  | call call => exact c.effect_answer call

end Cluster

end VirtLifecycle
