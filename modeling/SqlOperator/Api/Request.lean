import SqlOperator.Json.Printer
import SqlOperator.Net.Uri
import SqlOperator.Store.Program

/-!
# Requests to the server

Every call to a store is one request to the server that holds the objects. An
object is addressed by its group, version, namespace, collection and name. A
call whose address is not one, or that names no object, sends nothing.
-/

namespace SqlOperator.Api

/-- What a request asks for: to read, create or replace an object. -/
inductive Method where
  | get
  | post
  | put
  deriving DecidableEq, Inhabited, Repr

def Method.name : Method → String
  | .get => "GET"
  | .post => "POST"
  | .put => "PUT"

/-- A request to the server. -/
structure Request where
  method : Method
  /-- Path and query. -/
  uri : String
  body : Option Json := none
  deriving DecidableEq, Inhabited

/-- The type of the body, if there is one. -/
def Request.contentType (r : Request) : Option String := r.body.map fun _ => "application/json"

/-- The name under which the operator's writes are recorded. -/
def fieldManager : String := "sqeletor"

/-- The path of the objects of a kind, in all namespaces or in one. -/
def collectionPath (kind : Kind) (ns : Option String) : String :=
  (if kind.group.isEmpty then "/api" else "/apis/" ++ kind.group) ++ "/" ++ kind.version ++
    (match ns with | some ns => "/namespaces/" ++ ns | none => "") ++ "/" ++ kind.plural

/-- A text as path and query; a fragment is dropped. -/
def uri? (text : String) : Option String :=
  if text.utf8ByteSize ≤ Uri.longest then (Uri.target text.toList).toOption.map String.ofList
  else none

/-- The parameters of a write. -/
def writeParameters : String := "?&fieldManager=" ++ fieldManager

/-- The request of a call. -/
def request? : Call → Option Request
  | .get kind key =>
    if key.name.isEmpty then none
    else
      (uri? (collectionPath kind (some key.namespace) ++ "/" ++ key.name)).map fun uri =>
        { method := .get, uri }
  | .create kind object =>
    let ns := (kind.metadata object).namespace.getD ""
    (uri? (collectionPath kind (some ns) ++ writeParameters)).map fun uri =>
      { method := .post, uri, body := some (kind.toJson object) }
  | .replace kind object =>
    let ns := (kind.metadata object).namespace.getD ""
    let name := (kind.metadata object).anyName
    if name.isEmpty then none
    else
      (uri? (collectionPath kind (some ns) ++ "/" ++ name ++ writeParameters)).map fun uri =>
        { method := .put, uri, body := some (kind.toJson object) }

end SqlOperator.Api
