import Outbound.Call
import Outbound.Tls

/-! # The network

Connections are set up by their settings. A request is passed on to the network if its target is an
address and its context is not done.

* `Network.ofSettings` refuses a user agent that cannot stand in a header.
* `Network.transport` is the transport up to the opening of a connection. -/

namespace Outbound

/-- The settings of connections. -/
structure ConnectionSettings where
  /-- The longest time an exchange may take. -/
  timeout : Option Duration := some (.ofSeconds 30)
  /-- The longest time the opening of a connection may take. -/
  connectTimeout : Option Duration := some (.ofSeconds 10)
  /-- How the client introduces itself. -/
  userAgent : String := "restline/0.1.0"
  /-- What is asked of secured connections. -/
  tls : TlsPolicy := {}
  deriving DecidableEq, Repr

/-- The settings as text. -/
def ConnectionSettings.describe (settings : ConnectionSettings) : String :=
  Text.recordOf "TransportConfig"
    [("timeout", Text.optional (settings.timeout.map Duration.describe)),
      ("connect_timeout", Text.optional (settings.connectTimeout.map Duration.describe)),
      ("user_agent", Text.quoted settings.userAgent), ("tls", settings.tls.describe)]

/-- The network, set up by its settings. -/
structure Network where
  /-- The settings. -/
  settings : ConnectionSettings
  deriving DecidableEq, Repr

namespace Network

/-- The network set up in the usual way. -/
def plain : Network := ⟨{}⟩

/-- The network set up by given settings. -/
def ofSettings (settings : ConnectionSettings) : Except SetupError Network :=
  match HeaderValue.ofBytes? (Bytes.ofText settings.userAgent) with
  | some _ => .ok ⟨settings⟩
  | none => .error .connection

/-- The request, if its target is an address. -/
def addressed (request : Request) : Except Failure Request :=
  match Url.parse request.uri.render with
  | .ok _ => .ok request
  | .error error => .error (.invalidRequest (.address request.uri error))

/-- Passes a request on to the network. -/
def transport : Transport := fun request => do
  match addressed request with
  | .error failure => return .error failure
  | .ok request =>
      match ← Call.perform (.check request.callContext) with
      | some cause => return .error (.cancelled "transport" cause)
      | none => Call.perform (.send request)

end Network

end Outbound
