import SqlOperator.Api.Request
import SqlOperator.Json.Reader

/-!
# Responses of the server

A response of the statuses 400 to 599 is an error, which the server describes in
the body; if it does not, the status and the body stand in for a description.
Any other response holds an object. That there is no object under a key is an
error of the reason `NotFound`.
-/

namespace SqlOperator.Api

/-- What comes back for a request. -/
inductive Reply where
  | response (status : UInt16) (body : String)
  | broken (text : String)
  deriving DecidableEq, Inhabited

/-- The phrase that goes with an error status. -/
def phrase? : UInt16 → Option String
  | 400 => some "Bad Request"
  | 401 => some "Unauthorized"
  | 402 => some "Payment Required"
  | 403 => some "Forbidden"
  | 404 => some "Not Found"
  | 405 => some "Method Not Allowed"
  | 406 => some "Not Acceptable"
  | 407 => some "Proxy Authentication Required"
  | 408 => some "Request Timeout"
  | 409 => some "Conflict"
  | 410 => some "Gone"
  | 411 => some "Length Required"
  | 412 => some "Precondition Failed"
  | 413 => some "Payload Too Large"
  | 414 => some "URI Too Long"
  | 415 => some "Unsupported Media Type"
  | 416 => some "Range Not Satisfiable"
  | 417 => some "Expectation Failed"
  | 418 => some "I'm a teapot"
  | 421 => some "Misdirected Request"
  | 422 => some "Unprocessable Entity"
  | 423 => some "Locked"
  | 424 => some "Failed Dependency"
  | 425 => some "Too Early"
  | 426 => some "Upgrade Required"
  | 428 => some "Precondition Required"
  | 429 => some "Too Many Requests"
  | 431 => some "Request Header Fields Too Large"
  | 451 => some "Unavailable For Legal Reasons"
  | 500 => some "Internal Server Error"
  | 501 => some "Not Implemented"
  | 502 => some "Bad Gateway"
  | 503 => some "Service Unavailable"
  | 504 => some "Gateway Timeout"
  | 505 => some "HTTP Version Not Supported"
  | 506 => some "Variant Also Negotiates"
  | 507 => some "Insufficient Storage"
  | 508 => some "Loop Detected"
  | 510 => some "Not Extended"
  | 511 => some "Network Authentication Required"
  | _ => none

/-- A status by its number and its phrase. -/
def statusText (status : UInt16) : String :=
  toString status.toNat ++ " " ++ (phrase? status).getD "<unknown status code>"

/-- An error as the server describes it. -/
def describedError? (value : Json) : Option ApiError := do
  let r ← Json.Record.ofJson? ["status", "message", "reason", "code"] 4 value
  some {
    status := ← r.required? "status" Json.asText?
    message := ← r.withDefault? "message" "" Json.asText?
    reason := ← r.withDefault? "reason" "" Json.asText?
    code := UInt16.ofNat (← r.required? "code" (Json.asInt? 0 65535)).toNat }

/-- The error of a response that has an error status. -/
def errorOf (status : UInt16) (body : String) : ApiError :=
  ((Json.parse? body).bind describedError?).getD
    ⟨statusText status, Text.Quoted.quote body, "Failed to parse error data", status⟩

def isErrorStatus (status : UInt16) : Bool := 400 ≤ status && status < 600

/-- The object that a reply holds. -/
def object? (kind : Kind) : Reply → Except StoreError kind.Object
  | .broken text => .error (.connection text)
  | .response status body =>
    if isErrorStatus status then .error (.api (errorOf status body))
    else
      match (Json.parse? body).bind kind.ofJson? with
      | some object => .ok object
      | none => .error .undecodable

/-- An object that the server does not find is no object. -/
def absentIfNotFound {α : Type} : Except StoreError α → Except StoreError (Option α)
  | .ok object => .ok (some object)
  | .error (.api e) => if e.reason = "NotFound" then .ok none else .error (.api e)
  | .error e => .error e

/-- The answer to a call that a reply stands for. -/
def answer : (c : Call) → Reply → Except StoreError c.Answer
  | .get kind _, reply => absentIfNotFound (object? kind reply)
  | .create kind _, reply => object? kind reply
  | .replace kind _, reply => object? kind reply

/-- How calls are answered by a server that replies to requests. -/
def handler {σ : Type} (serve : Request → σ → Reply × σ) : Handler σ := fun c state =>
  match request? c with
  | none => (.error .unbuildable, state)
  | some request =>
    let (reply, state) := serve request state
    (answer c reply, state)

end SqlOperator.Api
