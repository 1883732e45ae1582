/-
Module: VirtLifecycle.Cluster.Status
Purpose: How a server tells of success and failure: the status line of its answer, the document that
  explains a refusal, and the document that reports on a deletion.
Specification: [SPEC 6 External interfaces]: `get_*` tells of not-found (HTTP 404) by no object. The
  documents of the server are `ErrorResponse` and `Status`.
Main exports: Refusal.ofAnswer, statusLine, isReport, isReport?
-/
import VirtLifecycle.Cluster.Error
import VirtLifecycle.Document
import VirtLifecycle.Json.Reader

namespace VirtLifecycle

open Document

/-- The customary phrase for a status code of failure. -/
def statusPhrase? : Nat → Option String
  | 400 => "Bad Request"
  | 401 => "Unauthorized"
  | 402 => "Payment Required"
  | 403 => "Forbidden"
  | 404 => "Not Found"
  | 405 => "Method Not Allowed"
  | 406 => "Not Acceptable"
  | 407 => "Proxy Authentication Required"
  | 408 => "Request Timeout"
  | 409 => "Conflict"
  | 410 => "Gone"
  | 411 => "Length Required"
  | 412 => "Precondition Failed"
  | 413 => "Payload Too Large"
  | 414 => "URI Too Long"
  | 415 => "Unsupported Media Type"
  | 416 => "Range Not Satisfiable"
  | 417 => "Expectation Failed"
  | 418 => "I'm a teapot"
  | 421 => "Misdirected Request"
  | 422 => "Unprocessable Entity"
  | 423 => "Locked"
  | 424 => "Failed Dependency"
  | 425 => "Too Early"
  | 426 => "Upgrade Required"
  | 428 => "Precondition Required"
  | 429 => "Too Many Requests"
  | 431 => "Request Header Fields Too Large"
  | 451 => "Unavailable For Legal Reasons"
  | 500 => "Internal Server Error"
  | 501 => "Not Implemented"
  | 502 => "Bad Gateway"
  | 503 => "Service Unavailable"
  | 504 => "Gateway Timeout"
  | 505 => "HTTP Version Not Supported"
  | 506 => "Variant Also Negotiates"
  | 507 => "Insufficient Storage"
  | 508 => "Loop Detected"
  | 510 => "Not Extended"
  | 511 => "Network Authentication Required"
  | _ => none

/-- A status code with its phrase. -/
def statusLine (code : Nat) : String :=
  toString code ++ " " ++ (statusPhrase? code).getD "<unknown status code>"

/-- A number that sixteen bits hold. -/
def word16? {α : Type} [Document α] (value : α) : Option Nat :=
  (intWithin? 0 0xFFFF value).map Int.toNat

/-- A number that thirty-two bits hold. -/
def word32? {α : Type} [Document α] (value : α) : Option Nat :=
  (intWithin? 0 0xFFFFFFFF value).map Int.toNat

namespace Refusal

def fieldNames : List String := ["status", "message", "reason", "code"]

/-- Reads the document that explains a refusal. -/
def decode? {α : Type} [Document α] (value : α) : Option Refusal := do
  let f ← Fields.ofRecord? fieldNames value
  let status ← f.required? "status" text?
  let message ← f.orDefault? "message" "" text?
  let reason ← f.orDefault? "reason" "" text?
  let code ← f.required? "code" word16?
  some { status, message, reason, code }

/-- The reason given where a server does not explain its refusal. -/
def unexplained : String := "Failed to parse error data"

/-- What a server's answer with a status code of failure says. -/
def ofAnswer (code : Nat) (body : String) : Refusal :=
  match (Json.read? body).bind decode? with
  | some refusal => refusal
  | none => ⟨statusLine code, Text.quote body, unexplained, code⟩

end Refusal

/-- The reason by which a server tells that an object does not exist. -/
def notFoundReason : String := "NotFound"

/-- Whether a document says that it is a report and not an object. -/
def isReport (body : Json) : Bool :=
  match body.canonical.find? "kind" with
  | some (.text kind) => kind == "Status"
  | _ => false

/-- Whether the value is one of the words a report sums itself up in. -/
def isSummary? (value : Json) : Option Unit :=
  let ok (word : String) : Option Unit := if word = "Success" ∨ word = "Failure" then some () else none
  match value with
  | .text word => ok word
  | .object [(word, .null)] => ok word
  | _ => none

def isCause? (value : Json) : Option Unit := do
  let f ← Fields.ofRecord? ["reason", "message", "field"] value
  let _ ← f.orDefault? "reason" "" text?
  let _ ← f.orDefault? "message" "" text?
  let _ ← f.orDefault? "field" "" text?

def isDetails? (value : Json) : Option Unit := do
  let f ← Fields.ofRecord? ["name", "group", "kind", "uid", "causes", "retryAfterSeconds"] value
  let _ ← f.orDefault? "name" "" text?
  let _ ← f.orDefault? "group" "" text?
  let _ ← f.orDefault? "kind" "" text?
  let _ ← f.orDefault? "uid" "" text?
  let _ ← f.orDefault? "causes" [] (listOf? isCause?)
  let _ ← f.orDefault? "retryAfterSeconds" 0 word32?

/-- Whether a document is a sound report. -/
def isReport? (value : Json) : Option Unit := do
  let f ← Fields.ofRecord? ["status", "code", "message", "reason", "details"] value
  let _ ← f.optional? "status" isSummary?
  let _ ← f.orDefault? "code" 0 word16?
  let _ ← f.orDefault? "message" "" text?
  let _ ← f.orDefault? "reason" "" text?
  let _ ← f.optional? "details" isDetails?

end VirtLifecycle
