/-
Module: VirtLifecycle.Proofs.Lifecycle.Refusals
Purpose: How a server behind a connection tells that there is no object. It does so by the document in the
  body of a refusal, whatever the status code of that is: a refusal that explains that the object does not
  exist is read as none, and any other refusal is an error. What is read decides whether an object exists,
  and when it is gone.
Main exports: Response.TellsAbsence, Response.reply_get_eq_none_iff, Response.reply_get_of_unexplained,
  Connection.answersReads, Lifecycle.absence_told_by_reason, Lifecycle.absence_not_told_by_status
-/
import VirtLifecycle.Proofs.Lifecycle.Agreement
import VirtLifecycle.Proofs.Lifecycle.Deletion

namespace VirtLifecycle

/-! ### Answers -/

namespace Response

variable {kind : Kind} {id : ResourceId} {status : Nat} {body : ByteArray}

/-- The status codes of refusals. -/
def IsRefusal (status : Nat) : Prop := 400 ≤ status ∧ status < 600

/-- The response is a refusal that explains that the object does not exist. -/
inductive TellsAbsence : Response → Prop where
  | refused {status : Nat} {body : ByteArray} (refuses : IsRefusal status)
      (explains : ExplainsNotFound body) : TellsAbsence (.answer status body)

/-- What is wrong with a refusal, by its status code and its body. -/
def refusalCause (status : Nat) (body : ByteArray) : ClientError :=
  match String.fromUTF8? body with
  | none => .answerNotText
  | some text => .refused (.ofAnswer status text)

theorem text_of_isRefusal (refuses : IsRefusal status) (body : ByteArray) :
    (answer status body).text = .error (refusalCause status body) := by
  rw [text, refusalCause]
  cases String.fromUTF8? body with
  | none => rfl
  | some text => exact if_pos refuses

/-- With any other status code nothing is refused. -/
theorem text_ne_refused (taken : ¬ IsRefusal status) (refusal : Refusal) :
    (answer status body).text ≠ .error (.refused refusal) := by
  intro refused
  rw [text] at refused
  cases decoded : String.fromUTF8? body with
  | none =>
    rw [decoded] at refused
    cases refused
  | some text =>
    rw [decoded] at refused
    cases (if_neg taken).symm.trans refused

/-- The reason of a refusal is that of its body, if that is a document that explains it. -/
theorem reason_ofAnswer_iff {text : String} (decoded : String.fromUTF8? body = some text) :
    (Refusal.ofAnswer status text).reason = notFoundReason ↔ ExplainsNotFound body := by
  constructor
  · intro reason
    cases read : (Json.read? text).bind Refusal.decode? with
    | none =>
      rw [Refusal.ofAnswer, read] at reason
      have unexplained : Refusal.unexplained ≠ notFoundReason := by decide
      exact absurd reason unexplained
    | some refusal =>
      rw [Refusal.ofAnswer, read] at reason
      exact ⟨text, refusal, decoded, read, reason⟩
  · rintro ⟨text', refusal, decoded', read, reason⟩
    cases decoded.symm.trans decoded'
    rw [Refusal.ofAnswer, read]
    exact reason

/-- A refusal that explains that the object does not exist is read as none. -/
theorem reply_get_of_explained (refuses : IsRefusal status) (explains : ExplainsNotFound body) :
    (answer status body).reply (.get kind id) = .ok none := by
  have refused := text_of_isRefusal refuses body
  have reasoned := explains
  obtain ⟨text, -, decoded, -, -⟩ := reasoned
  have cause : refusalCause status body = .refused (.ofAnswer status text) := by
    rw [refusalCause, decoded]
  rw [cause] at refused
  simp only [reply, refused, Except.bind, if_pos ((reason_ofAnswer_iff decoded).mpr explains)]

/-- Any other refusal is an error. -/
theorem reply_get_of_unexplained (refuses : IsRefusal status) (unexplained : ¬ ExplainsNotFound body) :
    (answer status body).reply (.get kind id) = .error (refusalCause status body) := by
  have refused := text_of_isRefusal refuses body
  cases decoded : String.fromUTF8? body with
  | none =>
    have cause : refusalCause status body = .answerNotText := by
      rw [refusalCause, decoded]
    rw [cause] at refused ⊢
    simp only [reply, refused, Except.bind]
  | some text =>
    have cause : refusalCause status body = .refused (.ofAnswer status text) := by
      rw [refusalCause, decoded]
    have reason : (Refusal.ofAnswer status text).reason ≠ notFoundReason := fun reason =>
      unexplained ((reason_ofAnswer_iff decoded).mp reason)
    rw [cause] at refused ⊢
    simp only [reply, refused, Except.bind, if_neg reason]

/-- What is no refusal is not read as none. -/
theorem reply_get_ne_none {response : Response}
    (taken : ∀ refusal, response.text ≠ .error (.refused refusal)) :
    response.reply (.get kind id) ≠ .ok none := by
  intro nothing
  rw [reply] at nothing
  cases body : response.text with
  | error cause =>
    rw [body] at nothing
    cases cause with
    | refused refusal => exact taken refusal body
    | _ => cases nothing
  | ok text =>
    rw [body, Except.bind, object] at nothing
    cases read : (Json.read? text).bind (Resource.decode? kind) with
    | none =>
      rw [read] at nothing
      cases nothing
    | some found =>
      rw [read] at nothing
      cases nothing

/-- A read finds nothing exactly if a refusal explains that the object does not exist. -/
theorem reply_get_eq_none_iff (kind : Kind) (id : ResourceId) (response : Response) :
    response.reply (.get kind id) = .ok none ↔ response.TellsAbsence := by
  constructor
  · intro nothing
    cases response with
    | failure message => cases nothing
    | answer status body =>
      by_cases refuses : IsRefusal status
      · by_cases explains : ExplainsNotFound body
        · exact .refused refuses explains
        · rw [reply_get_of_unexplained refuses explains] at nothing
          cases nothing
      · exact absurd nothing (reply_get_ne_none (text_ne_refused refuses))
  · rintro ⟨refuses, explains⟩
    exact reply_get_of_explained refuses explains

end Response

/-! ### Connections -/

namespace Connection

/-- The response to request number `k`. -/
def nth (c : Connection) (k : Nat) : Response := (c.responses.drop k).headD exhausted

/-- The connection when the request has been made so many times. -/
def afterRequests (c : Connection) (request : Request) (k : Nat) : Connection :=
  ⟨c.responses.drop k, List.replicate k request ++ c.sent⟩

variable {kind : Kind} {id : ResourceId} {request : Request}

/-- The responses to the reads of an object answer them, one after another. -/
theorem answersReads (built : Request.ofCall (.get kind id) = .ok request) (c : Connection) :
    Lifecycle.AnswersReads respond kind id (fun k => (c.nth k).reply (.get kind id))
      (c.afterRequests request) := by
  intro k time
  have rest : (c.responses.drop k).tail = c.responses.drop (k + 1) := List.tail_drop
  simp only [respond, answer, built, exchange, afterRequests, nth, rest, List.replicate_succ,
    List.cons_append]

theorem reply_answer (built : Request.ofCall (.get kind id) = .ok request) (c : Connection) :
    (c.answer (.get kind id)).1 = (c.nth 0).reply (.get kind id) := by
  simp only [answer, built, exchange, nth, List.drop_zero]

end Connection

/-! ### Status codes -/

namespace Response

/-- The response has the given status code. -/
def HasStatus (response : Response) (code : Nat) : Prop := ∃ body, response = answer code body

/-- The status code and the body agree: a refusal has the code 404 exactly if its body explains that the
object does not exist. -/
def Agrees (response : Response) : Prop :=
  ∀ status body, response = answer status body → IsRefusal status → (ExplainsNotFound body ↔ status = 404)

/-- Where the two agree, the status code tells that there is no object. -/
theorem Agrees.tellsAbsence_iff {response : Response} (agrees : response.Agrees) :
    response.TellsAbsence ↔ response.HasStatus 404 := by
  constructor
  · rintro ⟨refuses, explains⟩
    rename_i status body
    obtain rfl := (agrees status body rfl refuses).mp explains
    exact ⟨body, rfl⟩
  · rintro ⟨body, rfl⟩
    have refuses : IsRefusal 404 := ⟨by decide, by decide⟩
    exact .refused refuses ((agrees 404 body rfl refuses).mpr rfl)

end Response

namespace Lifecycle

variable {kind : Kind} {id : ResourceId} {request : Request}

/-- Asking whether an object exists is one read. -/
theorem run_existsNow {σ : Type} (respond : Plan.Responder Call Call.Reply σ) (state : σ) (now : Nat) :
    ((existsNow kind id now).run respond state).result =
      some (((respond state now (.get kind id)).1.1.mapError .client).map Option.isSome,
        Clock.sleepUntil now (now + (respond state now (.get kind id)).1.2.nanos)) := by
  have asked := Operation.run_call_bind respond state now (.get kind id) fun found =>
    Operation.succeed found.isSome
  rw [existsNow]
  refine (congrArg Plan.Run.result asked).trans ?_
  rw [Plan.Run.result_after]
  cases (respond state now (.get kind id)).1.1 with
  | error cause => rfl
  | ok found => rfl

/-- An object does not exist exactly if the response to the read tells so. -/
theorem existsNow_eq_false_iff (built : Request.ofCall (.get kind id) = .ok request)
    (connection : Connection) (now : Nat) :
    ((existsNow kind id now).run Connection.respond connection).result = some (.ok false, now) ↔
      (connection.nth 0).TellsAbsence := by
  have replied := Connection.reply_answer built connection
  have asked : ((existsNow kind id now).run Connection.respond connection).result =
      some ((((connection.nth 0).reply (.get kind id)).mapError .client).map Option.isSome, now) := by
    rw [run_existsNow, ← replied]
    exact congrArg (fun time => some (_, time)) (if_pos (Nat.le_refl now))
  rw [asked, ← Response.reply_get_eq_none_iff kind id]
  cases (connection.nth 0).reply (.get kind id) with
  | error cause => exact iff_of_false nofun nofun
  | ok found =>
    cases found with
    | none => exact iff_of_true rfl rfl
    | some object => exact iff_of_false nofun nofun

/-- **A server tells by the reason in the body, not by the status code, that there is no object.** Over a
connection a read finds nothing if and only if the response is a refusal, with whatever status code, whose
body explains that the object does not exist; every other refusal is an error that tells of the status code
or of the body. Just then an object does not exist; and a wait for a deleted object that is there in all
reads before succeeds with such a read, and fails with the error of any other refusal. Where refusals have
the status code 404 exactly if their bodies explain that the object does not exist, this is what the status
code tells. -/
theorem absence_told_by_reason (built : Request.ofCall (.get kind id) = .ok request)
    (connection : Connection) :
    let read := (connection.answer (.get kind id)).1
    (read = .ok none ↔ (connection.nth 0).TellsAbsence) ∧
      (∀ status body, connection.nth 0 = .answer status body → Response.IsRefusal status →
        ¬ Response.ExplainsNotFound body → read = .error (Response.refusalCause status body)) ∧
      (∀ now, ((existsNow kind id now).run Connection.respond connection).result = some (.ok false, now) ↔
        (connection.nth 0).TellsAbsence) ∧
      (∀ (config : Config) (timeout : Duration) (start n : Nat), 0 < config.pause.nanos →
        Clock.CanShow (start + timeout.nanos) →
        Clock.afterSleeps config.pause.nanos start n < start + timeout.nanos →
        (∀ i < n, IsPresent ((connection.nth i).reply (.get kind id))) →
        let times := Clock.afterSleeps config.pause.nanos start
        let run := (awaitDeleted config kind id timeout start).run Connection.respond connection
        ((connection.nth n).TellsAbsence →
          run = ⟨some (.ok (), times n), readsAt kind id times (n + 1),
            connection.afterRequests request (n + 1)⟩) ∧
          (∀ status body, connection.nth n = .answer status body → Response.IsRefusal status →
            ¬ Response.ExplainsNotFound body →
            run.result = some (.error (.wait kind id .deletion
              (.probe (Response.refusalCause status body))), times n))) ∧
      (∀ k, (connection.nth k).Agrees →
        ((connection.nth k).TellsAbsence ↔ (connection.nth k).HasStatus 404)) := by
  intro read
  have replied : read = (connection.nth 0).reply (.get kind id) := Connection.reply_answer built connection
  refine ⟨?_, ?_, ?_, ?_, ?_⟩
  · rw [replied]
    exact Response.reply_get_eq_none_iff kind id _
  · intro status body response refuses unexplained
    rw [replied, response]
    exact Response.reply_get_of_unexplained refuses unexplained
  · exact existsNow_eq_false_iff built connection
  · intro config timeout start n positive shown due present times run
    have answered := Connection.answersReads built connection
    constructor
    · intro tells
      have gone : GoneAt (fun k => (connection.nth k).reply (.get kind id)) n :=
        ⟨present, (Response.reply_get_eq_none_iff kind id _).mpr tells⟩
      exact run_awaitDeleted_gone shown answered positive due gone
    · intro status body response refuses unexplained
      have fails : (connection.nth n).reply (.get kind id) =
          .error (Response.refusalCause status body) := by
        rw [response]
        exact Response.reply_get_of_unexplained refuses unexplained
      have failed := run_awaitDeleted_failed shown answered positive due present fails
      exact congrArg Plan.Run.result failed
  · intro k agrees
    exact agrees.tellsAbsence_iff

/-- The machine that is asked for below. -/
def askedFor : ResourceId := ⟨"n", "a"⟩

theorem ofCall_get_askedFor :
    Request.ofCall (.get .virtualMachine askedFor) =
      .ok ⟨"GET", Request.addressOf .virtualMachine askedFor, none, none, none⟩ := by
  have labelled : askedFor.IsLabelled :=
    ⟨by decide, List.all_eq_true.mp (by decide), List.all_eq_true.mp (by decide)⟩
  exact Request.ofCall_get labelled (by decide)

/-- A machine that is refused as not found is none, and does not exist. -/
theorem absence_told_by_reason_of_machine :
    let connection : Connection := ⟨[.answer 404 notFoundBody.toUTF8], []⟩
    (∃ request, Request.ofCall (.get .virtualMachine askedFor) = .ok request) ∧
      (connection.answer (.get .virtualMachine askedFor)).1 = .ok none ∧
      ((existsNow .virtualMachine askedFor 0).run Connection.respond connection).result =
        some (.ok false, 0) := by
  intro connection
  have tells : (connection.nth 0).TellsAbsence :=
    .refused ⟨by decide, by decide⟩ explains_notFoundBody
  obtain ⟨none, -, gone, -, -⟩ := absence_told_by_reason ofCall_get_askedFor connection
  exact ⟨⟨_, ofCall_get_askedFor⟩, none.mpr tells, (gone 0).mpr tells⟩

/-- A page that a server sends with the status code 404. -/
def notFoundPage : String := "404 page not found"

theorem not_explains_notFoundPage : ¬ Response.ExplainsNotFound notFoundPage.toUTF8 := by
  rintro ⟨text, refusal, decoded, read, -⟩
  cases (fromUTF8?_toUTF8 notFoundPage).symm.trans decoded
  have unread : (Json.read? notFoundPage).bind Refusal.decode? = (none : Option Refusal) := rfl
  cases unread.symm.trans read

/-- A refusal with the status code 404 but no explanation is an error, for a read and for the question
whether the object exists; a refusal that explains is read as none with another status code. -/
theorem absence_not_told_by_status :
    let page : Connection := ⟨[.answer 404 notFoundPage.toUTF8], []⟩
    let failing : Connection := ⟨[.answer 500 notFoundBody.toUTF8], []⟩
    let refusal : Refusal :=
      ⟨"404 Not Found", "\"404 page not found\"", "Failed to parse error data", 404⟩
    (page.answer (.get .virtualMachine askedFor)).1 = .error (.refused refusal) ∧
      ((existsNow .virtualMachine askedFor 0).run Connection.respond page).result ≠ some (.ok false, 0) ∧
      (failing.answer (.get .virtualMachine askedFor)).1 = .ok none := by
  intro page failing refusal
  have refuses : Response.IsRefusal 404 := ⟨by decide, by decide⟩
  have cause : Response.refusalCause 404 notFoundPage.toUTF8 = .refused refusal := by
    rw [Response.refusalCause, fromUTF8?_toUTF8]
    rfl
  refine ⟨?_, ?_, ?_⟩
  · rw [Connection.reply_answer ofCall_get_askedFor, ← cause]
    exact Response.reply_get_of_unexplained refuses not_explains_notFoundPage
  · intro missing
    obtain ⟨-, explains⟩ := (existsNow_eq_false_iff ofCall_get_askedFor page 0).mp missing
    exact not_explains_notFoundPage explains
  · rw [Connection.reply_answer ofCall_get_askedFor]
    exact Response.reply_get_of_explained ⟨by decide, by decide⟩ explains_notFoundBody

end Lifecycle

end VirtLifecycle
