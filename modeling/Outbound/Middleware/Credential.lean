import Outbound.Middleware

/-! # Credentials

A credential is a header field with a secret value. It takes the place of whatever the caller set
under its name.

* `CredentialPlan.build` makes a credential of a token or a key, or says which part is refused.
* `Credential.apply` puts it into a request; by `Credential.describe_eq`, its text does not show the
  value. -/

namespace Outbound

/-- A header field with a secret value. -/
structure Credential where
  /-- The name of the field. -/
  name : HeaderName
  /-- The value of the field. -/
  value : HeaderValue
  /-- The value is secret. -/
  secret : value.sensitive = true

namespace Credential

/-- The credential of a name and a value, which becomes secret. -/
def ofField (name : HeaderName) (value : HeaderValue) : Credential := ⟨name, value.asSecret, rfl⟩

/-- The request with the credential. -/
def apply (credential : Credential) (request : Request) : Request :=
  { request with headers := request.headers.set credential.name credential.value }

/-- The transport that adds the credential to every request. -/
def transport (credential : Credential) (inner : Transport) : Transport := fun request =>
  inner (credential.apply request)

/-- Adding a credential as a layer. -/
def middleware (credential : Credential) : Middleware := ⟨"auth", credential.transport⟩

/-- A credential as text. -/
def describe (credential : Credential) : String :=
  Text.recordOf "AuthLayer"
    [("name", Text.quoted credential.name.text), ("value", credential.value.describe)]

/-- The text of a credential shows its name alone, since its value is secret. -/
theorem describe_eq (credential : Credential) :
    credential.describe = Text.recordOf "AuthLayer"
      [("name", Text.quoted credential.name.text), ("value", "Sensitive")] := by
  rw [describe, HeaderValue.describe_of_sensitive credential.secret]

end Credential

/-! ## Planning -/

/-- The header field of given texts, or the part that is refused; the name is looked at first. -/
def headerField (name : String) (bytes : Bytes) :
    Except SetupError (HeaderName × HeaderValue) :=
  match HeaderName.ofText? name with
  | none => .error (.header name .name)
  | some known =>
      match HeaderValue.ofBytes? bytes with
      | none => .error (.header name .value)
      | some value => .ok (known, value)

/-- What a credential is to be like. -/
inductive CredentialPlan where
  /-- A token for its bearer. -/
  | bearer (token : String)
  /-- A key under a header name. -/
  | apiKey (name key : String)
  /-- A header field. -/
  | field (name : String) (value : Bytes)

namespace CredentialPlan

/-- The credential of a plan. -/
def build : CredentialPlan → Except SetupError Credential
  | .bearer token =>
      match HeaderValue.ofBytes? (Bytes.ofText ("Bearer " ++ token)) with
      | some value => .ok (.ofField .authorization value)
      | none => .error (.header HeaderName.authorization.text .value)
  | .apiKey name key => do
      let (known, value) ← headerField name (Bytes.ofText key)
      return .ofField known value
  | .field name bytes => do
      let (known, value) ← headerField name bytes
      return .ofField known value

end CredentialPlan

end Outbound
