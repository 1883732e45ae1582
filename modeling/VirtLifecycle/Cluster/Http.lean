/-
Module: VirtLifecycle.Cluster.Http
Purpose: A cluster behind a connection. Each call becomes one request, and the answer to it becomes
  the reply: an object, none where a get is refused as not found, or an error. The connection holds
  the answers still to come and the requests made.
Specification: [SPEC 6 External interfaces] (`kubevirt-client`, `KubeVirtClient`): `create_resource`,
  `get_resource`, `patch_resource` and `delete_resource`, with the requests and the answers that they
  stand for.
Main exports: Request, Response, Connection, Connection.answer, Request.ofCall, Request.target?
-/
import VirtLifecycle.Cluster.Call
import VirtLifecycle.Cluster.Status
import VirtLifecycle.Plan

namespace VirtLifecycle

/-- A request to the server. -/
structure Request where
  method : String
  target : String
  contentType : Option String
  accept : Option String
  body : Option Json
deriving BEq, Repr, Inhabited

/-- What comes back for a request. -/
inductive Response where
  | answer (status : Nat) (body : ByteArray)
  | failure (message : String)

namespace Request

/-- Bytes that may stand in the path of a target. -/
def isPathByte (b : UInt8) : Bool :=
  b == 0x21 || b == 0x22 || (0x24 ≤ b && b ≤ 0x3B) || b == 0x3D || (0x40 ≤ b && b ≤ 0x5F) ||
    (0x61 ≤ b && b ≤ 0x7A) || 0x7B ≤ b

/-- Bytes that may stand in the query of a target. -/
def isQueryByte (b : UInt8) : Bool :=
  b == 0x21 || (0x24 ≤ b && b ≤ 0x3B) || b == 0x3D || 0x3F ≤ b

/-- The most bytes of a target. -/
def targetLimit : Nat := 65534

/-- The target that an address stands for: a path, perhaps with a query, and without what follows a
number sign. -/
def target? (address : String) : Except RequestFault String :=
  let shown := address.toList.takeWhile (· != '#')
  let path := shown.takeWhile (· != '?')
  let query := (shown.dropWhile (· != '?')).drop 1
  let sound (ok : UInt8 → Bool) (cs : List Char) : Bool :=
    (String.ofList cs).toUTF8.toList.all ok
  if targetLimit < address.utf8ByteSize then .error .tooLong
  else if sound isPathByte path && sound isQueryByte query then .ok (String.ofList shown)
  else .error .invalidCharacter

def json : String := "application/json"
def mergePatch : String := "application/merge-patch+json"

/-- The address of an object. It needs a name. -/
def objectAddress (kind : Kind) (id : ResourceId) : Except RequestFault String :=
  if id.name.isEmpty then .error .emptyName
  else .ok (kind.collectionPath id.space ++ "/" ++ id.name)

/-- The request for a call. -/
def ofCall : Call → Except ClientError Request
  | @Call.create kind object =>
    match object.metadata.space with
    | none => .error (.noNamespace (kind.name ++ " " ++ object.metadata.anyName))
    | some space => do
      let target ← (target? (kind.collectionPath space ++ "?")).mapError .unbuildable
      .ok ⟨"POST", target, some json, none, some object.encode⟩
  | .get kind id => do
    let address ← (objectAddress kind id).mapError .unbuildable
    let target ← (target? address).mapError .unbuildable
    .ok ⟨"GET", target, none, none, none⟩
  | .update kind id patch => do
    let address ← (objectAddress kind id).mapError .unbuildable
    let target ← (target? (address ++ "?")).mapError .unbuildable
    .ok ⟨"PATCH", target, some mergePatch, some json, some patch.value⟩
  | .delete kind id => do
    let address ← (objectAddress kind id).mapError .unbuildable
    let target ← (target? (address ++ "?")).mapError .unbuildable
    .ok ⟨"DELETE", target, some json, none, some (.object [])⟩

end Request

namespace Response

/-- The text of a successful answer. -/
def text : Response → Except ClientError String
  | failure message => .error (.transport message)
  | answer status body =>
    match String.fromUTF8? body with
    | none => .error .answerNotText
    | some text =>
      if 400 ≤ status ∧ status < 600 then .error (.refused (.ofAnswer status text)) else .ok text

/-- Reads an object out of a text. -/
def object (kind : Kind) (text : String) : Except ClientError (Resource kind) :=
  match (Json.read? text).bind (Resource.decode? kind) with
  | some object => .ok object
  | none => .error .undecodableAnswer

/-- Checks the answer to a deletion: a report, or the object as it was. -/
def deletion (kind : Kind) (text : String) : Except ClientError Unit :=
  match Json.read? text with
  | none => .error .undecodableAnswer
  | some body =>
    let sound :=
      if isReport body then (isReport? body).isSome
      else (Resource.decode? kind body).isSome
    if body.isUsable && sound then .ok () else .error .undecodableAnswer

/-- The reply that a response is to a call. Not-found is told by the reason that the server gives, not by
the status code (`get_opt`). -/
def reply (response : Response) : (call : Call) → call.Reply
  | @Call.create kind _ => response.text.bind (object kind)
  | .update kind _ _ => response.text.bind (object kind)
  | .delete kind _ => response.text.bind (deletion kind)
  | .get kind _ =>
    match response.text.bind (object kind) with
    | .ok found => .ok (some found)
    | .error (.refused refusal) =>
      if refusal.reason = notFoundReason then .ok none else .error (.refused refusal)
    | .error cause => .error cause

end Response

/-- A connection to a server (`KubeVirtClient`): the responses still to come, and the requests made,
latest first. -/
structure Connection where
  responses : List Response
  sent : List Request

namespace Connection

instance : Inhabited Connection := ⟨⟨[], []⟩⟩

/-- The failure when no response is left. -/
def exhausted : Response := .failure "no response left"

/-- Sends a request and takes the next response. -/
def exchange (c : Connection) (request : Request) : Response × Connection :=
  (c.responses.headD exhausted, ⟨c.responses.tail, request :: c.sent⟩)

/-- Answers a call. -/
def answer (c : Connection) (call : Call) : call.Reply × Connection :=
  match Request.ofCall call with
  | .error cause => (.error cause, c)
  | .ok request =>
    let (response, c) := c.exchange request
    (response.reply call, c)

/-- Answers calls at once. -/
def respond : Plan.Responder Call Call.Reply Connection := fun c _ call =>
  let (reply, c) := c.answer call
  ((reply, .zero), c)

end Connection

end VirtLifecycle
