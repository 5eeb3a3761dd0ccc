import Outbound.Telemetry.Log
import Outbound.Text.Quoted

/-! # Transport security

The least version of the protocol that is accepted, and whether certificates are checked.

* `TlsPolicy.warnings` lists what is logged when connections are set up: a warning if certificates
  are not checked. -/

namespace Outbound

/-- A version of the protocol. -/
inductive TlsVersion where
  /-- Version 1.2. -/
  | tls12
  /-- Version 1.3. -/
  | tls13
  deriving DecidableEq, Repr

/-- The number of a version. -/
def TlsVersion.number : TlsVersion → String
  | .tls12 => "1.2"
  | .tls13 => "1.3"

/-- A version as text. -/
def TlsVersion.describe : TlsVersion → String
  | .tls12 => "Tls12"
  | .tls13 => "Tls13"

/-- What is asked of secured connections. -/
structure TlsPolicy where
  /-- The least version accepted. -/
  minVersion : Option TlsVersion := some .tls12
  /-- Whether certificates are not checked. -/
  insecure : Bool := false
  deriving DecidableEq, Repr

namespace TlsPolicy

/-- Only the newest version is accepted. -/
def modern : TlsPolicy := { minVersion := some .tls13 }

/-- Certificates are not checked. -/
def insecureForLocalTesting : TlsPolicy := { insecure := true }

/-- The policies that have names: with `any`, every version is accepted. -/
def named : List (String × TlsPolicy) :=
  [("default", {}), ("modern", modern), ("insecure", insecureForLocalTesting),
    ("any", { minVersion := none }), ("any_insecure", { minVersion := none, insecure := true })]

/-- The policy of a name. -/
def ofName? (name : String) : Option TlsPolicy := named.lookup name

/-- The warning that certificates are not checked. -/
def uncheckedWarning : LogRecord :=
  { level := .warn
    message :=
      "TLS certificate verification disabled; only use against local self-signed endpoints"
    fields := [] }

/-- What is logged when connections are set up. -/
def warnings (policy : TlsPolicy) : List LogRecord :=
  if policy.insecure then [uncheckedWarning] else []

/-- A policy as text. -/
def describe (policy : TlsPolicy) : String :=
  Text.recordOf "TlsConfig"
    [("min_version", Text.optional (policy.minVersion.map TlsVersion.describe)),
      ("insecure_skip_verify", toString policy.insecure)]

end TlsPolicy

end Outbound
