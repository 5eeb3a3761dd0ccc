import Outbound.Bytes
import Outbound.Context
import Outbound.Http.Header
import Outbound.Http.Status
import Outbound.Http.Uri

/-! # Requests and responses

A body is a stream of chunks that may break off. A request without a body differs from a request
with an empty one. A response is numbered when it is opened, so that its closing can be told apart
from that of others.

* `Body.read` reads a body to its end; `Body.read_ofBytes` says that a whole body is read back.
* `Request.callContext` is the context that governs a request. -/

namespace Outbound

/-! ## Bodies -/

/-- A body: chunks of bytes, and the message of the failure in which they end, if they do. -/
structure Body where
  /-- The chunks that arrive. -/
  chunks : List Bytes
  /-- The failure behind the last chunk. -/
  failure : Option String := none
  deriving DecidableEq, Repr

namespace Body

/-- A body of the given bytes in one piece. -/
def ofBytes (bytes : Bytes) : Body := { chunks := [bytes] }

/-- The body without any bytes. -/
def empty : Body := { chunks := [] }

/-- The bytes of a body, or the message of its failure. -/
def read (body : Body) : Except String Bytes :=
  match body.failure with
  | some message => .error message
  | none => .ok body.chunks.flatten

/-- A body in one piece is read back. -/
@[simp] theorem read_ofBytes (bytes : Bytes) : (ofBytes bytes).read = .ok bytes := by
  simp [read, ofBytes]

end Body

/-! ## Requests -/

/-- A request method: a token, told apart by its letters and their case. -/
structure Method where
  /-- The token. -/
  text : String
  deriving DecidableEq, Repr

namespace Method

/-- The method GET. -/
def get : Method := ⟨"GET"⟩

/-- The method of a given name, if the name is a token. -/
def ofText? (text : String) : Option Method :=
  if !text.isEmpty && text.toList.all isTokenChar then some ⟨text⟩ else none

end Method

/-- The version of the protocol a request is made in. -/
inductive Version where
  /-- Version 0.9. -/
  | http09
  /-- Version 1.0. -/
  | http10
  /-- Version 1.1. -/
  | http11
  /-- Version 2. -/
  | http2
  /-- Version 3. -/
  | http3
  deriving DecidableEq, Repr

/-- Data that ride along with a request and are not sent. -/
structure Extensions where
  /-- The context of the call. -/
  context : Option Context := none
  /-- Further data, by name. -/
  others : List (String × String) := []
  deriving DecidableEq, Repr

/-- A request. -/
structure Request where
  /-- The method. -/
  method : Method
  /-- The target. -/
  uri : Uri
  /-- The version of the protocol. -/
  version : Version := .http11
  /-- The header fields. -/
  headers : Headers := .empty
  /-- The body, if there is one. -/
  body : Option Body := none
  /-- What rides along. -/
  extensions : Extensions := {}
  deriving DecidableEq

namespace Request

/-- The context that governs a request: the one that rides along, or one that is never done. -/
def callContext (request : Request) : Context :=
  request.extensions.context.getD .background

/-- The request with a context that rides along. -/
def attach (request : Request) (context : Context) : Request :=
  { request with extensions := { request.extensions with context := some context } }

/-- An attached context governs the request. -/
@[simp] theorem callContext_attach (request : Request) (context : Context) :
    (request.attach context).callContext = context := rfl

end Request

/-! ## Responses -/

/-- The number of a response, in the order in which responses are opened. -/
abbrev ResponseId := Nat

/-- A response. -/
structure Response where
  /-- The number of the response. -/
  id : ResponseId
  /-- The status. -/
  status : Status
  /-- The header fields. -/
  headers : Headers := .empty
  /-- The body. -/
  body : Body := .empty
  /-- The attempts made, once retries ran out on the status. -/
  attempts : Option Nat := none
  deriving DecidableEq

end Outbound
