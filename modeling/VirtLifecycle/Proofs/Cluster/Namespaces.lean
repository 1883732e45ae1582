/-
Module: VirtLifecycle.Proofs.Cluster.Namespaces
Purpose: Clients that miss a namespace. Both the cluster in memory and the cluster behind a connection look
  for one when an object is to be created, and fail for that reason only if the object has none.
Main exports: Call.LacksSpace, Call.MissesOnlyLacking, Cluster.error_of_write,
  Call.missesOnlyLacking_inMemory, Call.missesOnlyLacking_overHttp
-/
import VirtLifecycle.Cluster.Http
import VirtLifecycle.Proofs.Cluster.Writes

namespace VirtLifecycle

variable {α β : Type} {what : String}

namespace Call

/-- The call is to create an object that has no namespace, not even an empty one. -/
def LacksSpace : Call → Prop
  | create object => object.metadata.space = none
  | _ => False

/-- Whoever answers the calls misses a namespace only in objects that have none. -/
def MissesOnlyLacking {σ : Type} (respond : Plan.Responder Call Call.Reply σ) : Prop :=
  ∀ state now call what,
    (respond state now call).1.1 = .error (.noNamespace what) → call.LacksSpace

end Call

/-! ### In memory -/

/-- A write fails for the failure that is arranged for it, or for what it would change. -/
theorem Cluster.error_of_write {c : Cluster} {change : Cluster → Except ClientError (α × Cluster)}
    {cause : ClientError} (failed : (c.write change).1 = .error cause) :
    (∃ message, cause = .rejected (.arranged message)) ∨ change c.counted = .error cause := by
  cases armed : c.armed with
  | some message =>
    rw [c.write_of_armed armed] at failed
    cases failed
    exact .inl ⟨message, rfl⟩
  | none =>
    cases changed : change c.counted with
    | error other =>
      rw [c.write_of_error armed changed] at failed
      cases failed
      exact .inr rfl
    | ok answered =>
      rw [c.write_of_ok armed changed] at failed
      cases failed

/-- A cluster in memory misses a namespace only where the object of a create has none. -/
theorem Call.missesOnlyLacking_inMemory : MissesOnlyLacking Cluster.respond := by
  intro c now call what missed
  replace missed : (c.answer call).1 = .error (.noNamespace what) := missed
  cases call with
  | create object =>
    rcases Cluster.error_of_write missed with ⟨message, ⟨⟩⟩ | missed
    rw [Cluster.create] at missed
    split at missed
    · assumption
    · dsimp only at missed
      split at missed
      · cases missed
      · cases missed
  | get kind id =>
    rw [Cluster.answer, Cluster.get] at missed
    dsimp only at missed
    split at missed
    · rename_i reading rest scripted
      cases reading
      all_goals cases missed
    · cases missed
  | update kind id patch =>
    rcases Cluster.error_of_write missed with ⟨message, ⟨⟩⟩ | missed
    rw [Cluster.update] at missed
    split at missed
    · cases missed
    · split at missed
      · cases missed
      · cases missed
  | delete kind id =>
    rcases Cluster.error_of_write missed with ⟨message, ⟨⟩⟩ | missed
    rw [Cluster.delete] at missed
    split at missed
    · cases missed
    · cases missed

/-! ### Over a connection -/

/-- A request that is built step by step fails for what a step misses. -/
theorem Request.mapError_bind_ne_noNamespace {x : Except RequestFault α} {next : α → Except ClientError β}
    (later : ∀ a, next a ≠ .error (.noNamespace what)) :
    (x.mapError .unbuildable >>= next) ≠ .error (.noNamespace what) := by
  cases x with
  | error fault => exact nofun
  | ok a => exact later a

/-- Building a request fails for a namespace only if it is to create an object that has none. -/
theorem Request.lacksSpace_of_ofCall {call : Call}
    (missed : ofCall call = .error (.noNamespace what)) : call.LacksSpace := by
  cases call with
  | create object =>
    rw [ofCall] at missed
    split at missed
    · assumption
    · exact absurd missed (mapError_bind_ne_noNamespace fun target => nofun)
  | get kind id | update kind id patch | delete kind id =>
    exact absurd missed
      (mapError_bind_ne_noNamespace fun address => mapError_bind_ne_noNamespace fun target => nofun)

namespace Response

/-- An answer that does not come, is no text or is a refusal says nothing of a namespace. -/
theorem bind_ne_noNamespace (response : Response) {read : String → Except ClientError α}
    (reads : ∀ text, read text ≠ .error (.noNamespace what)) :
    response.text.bind read ≠ .error (.noNamespace what) := by
  unfold text
  split
  · exact nofun
  · split
    · exact nofun
    · split
      · exact nofun
      · exact reads _

/-- An answer that should be an object is never taken for a missing namespace, whatever stands in it. -/
theorem object_ne_noNamespace (kind : Kind) (body : String) :
    object kind body ≠ .error (.noNamespace what) := by
  unfold object
  split
  · exact nofun
  · exact nofun

/-- The answer to a deletion is never taken for a missing namespace, whatever stands in it. -/
theorem deletion_ne_noNamespace (kind : Kind) (body : String) :
    deletion kind body ≠ .error (.noNamespace what) := by
  unfold deletion
  split
  · rintro ⟨⟩
  · dsimp only
    -- whether it is a report or not, it is sound or it cannot be read
    repeat' split
    all_goals rintro ⟨⟩

/-- No response of a server is taken for a missing namespace: this failure comes from the request alone. -/
theorem reply_ne_noNamespace (response : Response) (call : Call) :
    response.reply call ≠ .error (.noNamespace what) := by
  have reads (kind : Kind) : response.text.bind (object kind) ≠ .error (.noNamespace what) :=
    response.bind_ne_noNamespace (object_ne_noNamespace kind)
  cases call with
  | @create kind _ => exact reads kind
  | update kind _ _ => exact reads kind
  | delete kind _ => exact response.bind_ne_noNamespace (deletion_ne_noNamespace kind)
  | get kind _ =>
    dsimp only [reply]
    split
    · exact nofun
    · split
      · exact nofun
      · exact nofun
    · rename_i cause _ failed
      rintro ⟨⟩
      exact reads kind failed

end Response

/-- A server misses a namespace only where the object of a create has none, since the request is then not
sent. -/
theorem Call.missesOnlyLacking_overHttp : MissesOnlyLacking Connection.respond := by
  intro c now call what missed
  replace missed : (c.answer call).1 = .error (.noNamespace what) := missed
  unfold Connection.answer at missed
  split at missed
  · rename_i cause unbuilt
    cases missed
    exact Request.lacksSpace_of_ofCall unbuilt
  · exact absurd missed (Response.reply_ne_noNamespace _ call)

end VirtLifecycle
