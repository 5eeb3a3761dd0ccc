import Outbound.Answer
import Outbound.Config
import Outbound.Json.Decode

/-! # Clients

A client joins paths to its base address, sends requests through its layers and judges the answers.

* `Client.request` makes a request for a path.
* `Client.execute` is a call for the response, `Client.sendJson` one for the payload of a response
  with the expected status, and `Client.sendNoContent` one for the status alone. The last two let go
  of the response. -/

namespace Outbound

/-- A client. -/
structure Client where
  /-- The transport behind the layers. -/
  transport : Transport
  /-- The base address. -/
  baseUrl : Option String
  /-- The names of the layers, from the outside in. -/
  layers : List String

namespace Client

/-- The client of a configuration over a base, with further layers next to the base. -/
def ofConfig (config : ClientConfig) (base : Transport) (extra : List Middleware) : Client :=
  let collected := extra.foldl Chain.add ⟨config.layers⟩
  { transport := collected.build base
    baseUrl := config.baseUrl
    layers := collected.names }

/-- The transport of a client is the chain of its layers and of those next to the base. -/
theorem transport_ofConfig (config : ClientConfig) (base : Transport) (extra : List Middleware) :
    (ofConfig config base extra).transport = chain (config.layers ++ extra) base := by
  rw [ofConfig, Chain.build_eq, Chain.layers_foldl_add]

/-! ## Requests -/

/-- A path joined to the base address with one slash between them, unless the base brings further
ones. -/
def join (baseUrl : Option String) (path : String) : String :=
  match baseUrl with
  | none => path
  | some base => if path.toList.head? = some '/' then base ++ path else base ++ "/" ++ path

/-- The request of a method for a path, without a body. -/
def request (client : Client) (method : Method) (path : String) : Except Failure Request :=
  match Uri.parse (join client.baseUrl path) with
  | .ok uri => .ok { method, uri }
  | .error error => .error (.invalidRequest (.target error))

/-! ## Calls -/

/-- A call for the response to a request. -/
def execute (client : Client) (request : Request) : Call Outcome := client.transport request

/-- The payload in a body; none if the body is empty or the payload null. -/
def payloadIn (operation : String) (shape : Json.Shape) (body : Body) :
    Except Failure (Option Json.Value) :=
  match body.read with
  | .error message => .error (.within operation (.transport (.brokenBody message)))
  | .ok [] => .ok none
  | .ok bytes =>
      match Json.decode shape bytes with
      | .ok payload => .ok payload
      | .error error => .error (.undecodable operation error)

/-- The payload of a response; the body is only read if the status is the expected one. -/
def payloadOf (operation : String) (shape : Json.Shape) (expected : Status)
    (response : Response) : Except Failure Json.Value := do
  let payload ←
    if response.status = expected then payloadIn operation shape response.body else .ok none
  Answer.judge operation expected (.ok ⟨response.status, payload, response.attempts⟩)

/-- A call for the payload of a response. -/
def sendJson (client : Client) (operation : String) (shape : Json.Shape) (expected : Status)
    (request : Request) : Call (Except Failure Json.Value) := do
  match ← client.execute request with
  | .error failure => return Answer.judge operation expected (.error failure)
  | .ok response =>
      Call.perform (.close response.id)
      return payloadOf operation shape expected response

/-- A call for a response with the expected status. -/
def sendNoContent (client : Client) (operation : String) (expected : Status)
    (request : Request) : Call (Except Failure Unit) := do
  match ← client.execute request with
  | .error failure => return Answer.confirm operation expected (.error failure)
  | .ok response =>
      Call.perform (.close response.id)
      return Answer.judge operation expected
        (.ok ⟨response.status, some (), response.attempts⟩)

/-- A client as text. -/
def describe (client : Client) : String :=
  Text.recordOf "ApiClient"
    [("base_url", Text.optional (client.baseUrl.map Text.quoted)),
      ("middleware", Text.listOf (client.layers.map Text.quoted))]

end Client

end Outbound
