/-
Module: VirtLifecycle.Proofs.Cluster.History
Purpose: What a cluster in memory answers, told by its history alone. The history is the list of all
  events so far. What is under an id, which failure is arranged and which scripted reading comes next
  are read off that list, without any state of the cluster.
Main exports: History, History.live?, History.armed?, History.reading?, History.Answers, Cluster.record,
  Cluster.answers_by_history
-/
import Mathlib.Data.List.Induction
import VirtLifecycle.Proofs.Cluster.Events

namespace VirtLifecycle

/-- What has been done to a cluster, the latest event first. -/
abbrev History := List Event

namespace History

variable (h : History) (kind : Kind) (id : ResourceId)

/-- The object most recently put under an id, if it was not taken out since. -/
def live? : Option (Resource kind) :=
  (h.findSome? fun event => event.change?.bind (·.at? kind id)).join

/-- The message of the failure most recently arranged, if no write came since. -/
def armed? : Option String :=
  (h.takeWhile (! ·.isWrite)).findSome? Event.message?

/-- All readings ever scripted for an object, in their order. -/
def scripted : List (Reading kind) :=
  h.reverse.flatMap (·.readings kind id)

/-- How many of the scripted readings have been used: each get of the object has used one, unless there
was none left. -/
def used : History → Nat
  | [] => 0
  | event :: before =>
    if event.isGetOf kind id ∧ used before < (scripted before kind id).length then used before + 1
    else used before

/-- The scripted reading that a get of the object uses next. -/
def reading? : Option (Reading kind) :=
  (h.scripted kind id)[h.used kind id]?

/-- How an action is answered after all that has happened before. -/
inductive Answers : (action : Action) → action.Answer → Prop where
  | add {kind : Kind} (object : Resource kind) : Answers (.add object) ()
  | script {kind : Kind} (id : ResourceId) (readings : List (Reading kind)) :
      Answers (.script id readings) ()
  | arm (message : String) : Answers (.arm message) ()
  | holds (kind : Kind) (id : ResourceId) : Answers (.holds kind id) (h.live? kind id).isSome
  | scripted {kind : Kind} {id : ResourceId} {reading : Reading kind}
      (next : h.reading? kind id = some reading) : Answers (.call (.get kind id)) reading.reply
  | stored {kind : Kind} {id : ResourceId} (exhausted : h.reading? kind id = none) :
      Answers (.call (.get kind id)) (.ok (h.live? kind id))
  /-- the arranged failure hits any write, also one that would fail anyway -/
  | arranged {call : Call} {message : String} (write : call.isGet = false)
      (armed : h.armed? = some message) :
      Answers (.call call) (.error (.rejected (.arranged message)))
  | created {kind : Kind} {object : Resource kind} {space : String} (unarmed : h.armed? = none)
      (named : object.metadata.space = some space) (free : h.live? kind object.ownId = none) :
      Answers (.call (.create object)) (.ok object)
  | homeless {kind : Kind} {object : Resource kind} (unarmed : h.armed? = none)
      (unnamed : object.metadata.space = none) :
      Answers (.call (.create object)) (.error (.noNamespace object.metadata.anyName))
  | occupied {kind : Kind} {object other : Resource kind} {space : String}
      (unarmed : h.armed? = none) (named : object.metadata.space = some space)
      (there : h.live? kind object.ownId = some other) :
      Answers (.call (.create object)) (.error (.rejected (.exists object.ownId)))
  | patched {kind : Kind} {id : ResourceId} {patch : Freeform} {object result : Resource kind}
      (unarmed : h.armed? = none) (there : h.live? kind id = some object)
      (applies : Cluster.patched? object patch = some result) :
      Answers (.call (.update kind id patch)) (.ok result)
  | undecodable {kind : Kind} {id : ResourceId} {patch : Freeform} {object : Resource kind}
      (unarmed : h.armed? = none) (there : h.live? kind id = some object)
      (fails : Cluster.patched? object patch = none) :
      Answers (.call (.update kind id patch)) (.error .undecodablePatch)
  | unfound {kind : Kind} {id : ResourceId} {patch : Freeform} (unarmed : h.armed? = none)
      (missing : h.live? kind id = none) :
      Answers (.call (.update kind id patch)) (.error (.rejected (.absent id)))
  | deleted {kind : Kind} {id : ResourceId} {object : Resource kind} (unarmed : h.armed? = none)
      (there : h.live? kind id = some object) : Answers (.call (.delete kind id)) (.ok ())
  | undeleted {kind : Kind} {id : ResourceId} (unarmed : h.armed? = none)
      (missing : h.live? kind id = none) :
      Answers (.call (.delete kind id)) (.error (.rejected (.absent id)))

variable {h kind id}

/-- The history leaves no choice of an answer. -/
theorem Answers.unique {action : Action} {first second : action.Answer}
    (one : h.Answers action first) (other : h.Answers action second) : first = second := by
  cases one with
  | add | script | arm | holds =>
    cases other
    rfl
  | scripted | stored | arranged | created | homeless | occupied | patched | undecodable | unfound
    | deleted | undeleted =>
    -- two different forms for one call ask for contrary histories
    cases other <;> grind [Call.isGet]

/-! ### One more event -/

variable (event : Event)

/-- What is stored after one more event is what the event puts there or, if it leaves the place alone, what
was stored before. -/
theorem live?_cons : live? (event :: h) kind id =
    (event.change?.bind (·.at? kind id)).getD (h.live? kind id) := by
  simp only [live?, List.findSome?_cons]
  cases event.change?.bind (·.at? kind id) with
  | none => rfl
  | some left => rfl

/-- Every write disarms, also one that fails; other events arm or leave things as they are. -/
theorem armed?_cons :
    armed? (event :: h) = if event.isWrite then none else event.message?.or h.armed? := by
  unfold armed?
  cases write : event.isWrite with
  | true => simp [write]
  | false =>
    simp only [write, Bool.not_false, List.takeWhile_cons_of_pos, List.findSome?_cons,
      Bool.false_eq_true, if_false]
    cases event.message? with
    | none => rfl
    | some message => rfl

theorem scripted_cons :
    scripted (event :: h) kind id = h.scripted kind id ++ event.readings kind id := by
  simp [scripted]

theorem used_le : h.used kind id ≤ (h.scripted kind id).length := by
  induction h with
  | nil => exact Nat.zero_le _
  | cons event before ih =>
    rw [used, scripted_cons, List.length_append]
    split
    · rename_i uses
      exact Nat.le_add_right_of_le uses.2
    · exact Nat.le_add_right_of_le ih

/-- Of the readings that are still to come, a get uses the first one, and scripted ones join at the end. -/
theorem drop_used_cons : (scripted (event :: h) kind id).drop (used kind id (event :: h)) =
    if event.isGetOf kind id then ((h.scripted kind id).drop (h.used kind id)).tail
    else (h.scripted kind id).drop (h.used kind id) ++ event.readings kind id := by
  rw [scripted_cons, used]
  cases gets : event.isGetOf kind id with
  | false =>
    simp only [Bool.false_eq_true, false_and, if_false]
    exact List.drop_append_of_le_length used_le
  | true =>
    rw [Event.readings_of_isGetOf gets, List.append_nil, List.tail_drop]
    simp only [true_and, if_true]
    split
    · rfl
    · rename_i all
      have le := Nat.le_of_not_lt all
      rw [List.drop_eq_nil_of_le le, List.drop_eq_nil_of_le (Nat.le_succ_of_le le)]

end History

namespace Cluster

/-- A cluster holds what its history tells. -/
structure Remembers (h : History) (c : Cluster) : Prop where
  stored : ∀ kind id, c.stored kind id = h.live? kind id
  scripted : ∀ kind id, c.scripted kind id = (h.scripted kind id).drop (h.used kind id)
  armed : c.armed = h.armed?
  reads : c.reads = h.countP Event.isRead
  writes : c.writes = h.countP Event.isWrite

namespace Remembers

variable {h : History} {c after : Cluster}

theorem empty : Remembers [] Cluster.empty where
  stored _ _ := rfl
  scripted _ _ := rfl
  armed := rfl
  reads := rfl
  writes := rfl

/-- What an event does to the cluster is what one more event does to the history. -/
theorem next (memory : Remembers h c) {event : Event} (effect : Effect event c after) :
    Remembers (event :: h) after where
  stored kind id := by rw [effect.stored, memory.stored, History.live?_cons]
  scripted kind id := by rw [effect.scripted, memory.scripted, History.drop_used_cons]
  armed := by rw [effect.armed, memory.armed, History.armed?_cons]
  reads := by rw [effect.reads, memory.reads, List.countP_cons]
  writes := by rw [effect.writes, memory.writes, List.countP_cons]

/-- The reading that the next get meets is told by the history: the first that no get before it has used up.
-/
theorem head?_scripted (memory : Remembers h c) (kind : Kind) (id : ResourceId) :
    (c.scripted kind id).head? = h.reading? kind id := by
  rw [memory.scripted, List.head?_drop]
  rfl

/-- The history tells the answer. -/
theorem answers (memory : Remembers h c) (action : Action) : h.Answers action (c.act action).1 := by
  cases action with
  | add object => exact .add object
  | script id readings => exact .script id readings
  | arm message => exact .arm message
  | holds kind id =>
    have there : c.holds kind id = (h.live? kind id).isSome := by rw [Cluster.holds, memory.stored]
    rw [act, there]
    exact .holds kind id
  | call call =>
    change h.Answers (.call call) (c.answer call).1
    cases call with
    | get kind id =>
      rw [answer_get, memory.head?_scripted, memory.stored]
      split
      · rename_i next
        exact .scripted next
      · rename_i exhausted
        exact .stored exhausted
    | create object =>
      rw [answer_create_eq, memory.stored, memory.armed]
      split
      · rename_i armed
        exact .arranged rfl armed
      · rename_i unarmed unnamed
        exact .homeless unarmed unnamed
      · rename_i unarmed named there
        exact .occupied unarmed named there
      · rename_i unarmed named free
        exact .created unarmed named free
    | update kind id patch =>
      rw [answer_update_eq, memory.stored, memory.armed]
      split
      · rename_i armed
        exact .arranged rfl armed
      · rename_i unarmed missing
        exact .unfound unarmed missing
      · rename_i unarmed there fails
        rw [there, Option.bind_some] at fails
        exact .undecodable unarmed there fails
      · rename_i unarmed there applies
        rw [there, Option.bind_some] at applies
        exact .patched unarmed there applies
    | delete kind id =>
      rw [answer_delete_eq, memory.stored, memory.armed]
      split
      · rename_i armed
        exact .arranged rfl armed
      · rename_i unarmed missing
        exact .undeleted unarmed missing
      · rename_i unarmed there
        exact .deleted unarmed there

end Remembers

/-- Does actions in turn, and notes the history. -/
def record (actions : List Action) : History × Cluster :=
  actions.foldl (fun (h, c) action => (⟨action, (c.act action).1⟩ :: h, (c.act action).2)) ([], empty)

/-- The history of actions grows by one event for each, recorded on the cluster that the ones before it have
left. -/
theorem record_concat (actions : List Action) (action : Action) :
    record (actions ++ [action]) =
      (⟨action, ((record actions).2.act action).1⟩ :: (record actions).1,
        ((record actions).2.act action).2) := by
  rw [record, List.foldl_append]
  rfl

theorem map_action_record (actions : List Action) :
    (record actions).1.map Event.action = actions.reverse := by
  induction actions using List.reverseRecOn with
  | nil => rfl
  | append_singleton before action ih =>
    rw [record_concat, List.map_cons, ih, List.reverse_concat]

/-- A cluster that starts empty holds what its history tells, whatever is done to it. -/
theorem remembers_record (actions : List Action) :
    Remembers (record actions).1 (record actions).2 := by
  induction actions using List.reverseRecOn with
  | nil => exact .empty
  | append_singleton before action ih =>
    rw [record_concat]
    exact ih.next ((record before).2.effect_act action)

/-- **The cluster refines its history.** Whatever has been done to a cluster that was empty, each action
is answered as its history tells, and in no other way, and the counts are those of the calls made. -/
theorem answers_by_history (actions : List Action) :
    let (h, c) := record actions
    h.map Event.action = actions.reverse ∧
      (∀ action answer, (c.act action).1 = answer ↔ h.Answers action answer) ∧
      c.reads = h.countP Event.isRead ∧ c.writes = h.countP Event.isWrite := by
  have memory := remembers_record actions
  refine ⟨map_action_record actions, fun action answer => ⟨?_, fun answers => ?_⟩,
    memory.reads, memory.writes⟩
  · rintro rfl
    exact memory.answers action
  · exact (memory.answers action).unique answers

end Cluster

end VirtLifecycle
