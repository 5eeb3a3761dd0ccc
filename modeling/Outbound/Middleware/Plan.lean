import Outbound.Middleware.Admission
import Outbound.Middleware.Credential
import Outbound.Middleware.Observe
import Outbound.Middleware.Retry

/-! # Planning layers

The layers of a chain are planned one by one. Apart from those of a client there are layers that
mark when they are entered and left, that set a header field, and that stand for a chain of their
own.

* `LayerPlan.build` is the layer of a plan: none for a layer that is left out.
* `LayerPlan.addAll` adds the layers of several plans to a chain. -/

namespace Outbound

/-! ## Marks and header fields -/

/-- The layer that marks when it is entered and left. -/
def Middleware.tag (name : String) : Middleware :=
  { name
    wrap := fun inner request => do
      Call.perform (.enter name)
      let outcome ← inner request
      Call.perform (.leave name outcome.toBool)
      return outcome }

/-- The layer that sets a header field. -/
def Middleware.header (name : HeaderName) (value : HeaderValue) : Middleware :=
  { name := "header"
    wrap := fun inner request =>
      inner { request with headers := request.headers.set name value } }

/-! ## Plans -/

/-- What a layer is to be like. -/
inductive LayerPlan where
  /-- It marks when it is entered and left. -/
  | tag (name : String)
  /-- It sets a header field. -/
  | header (name : String) (value : Bytes)
  /-- It adds a credential. -/
  | credential (plan : CredentialPlan)
  /-- It admits calls. -/
  | admission (settings : Admission)
  /-- It repeats attempts. -/
  | retry (policy : RetryPolicy)
  /-- It observes calls. -/
  | observe (settings : Observe)
  /-- It stands for a chain. -/
  | group (layers : List LayerPlan)
  /-- It stands for another layer. -/
  | asLayer (layer : LayerPlan)
  /-- It is left out. -/
  | absent

namespace LayerPlan

mutual

/-- The layer of a plan, unless it is left out. -/
def build : LayerPlan → Except SetupError (Option Middleware)
  | .tag name => .ok (some (.tag name))
  | .header name bytes => do
      let (known, value) ← headerField name bytes
      return some (.header known value)
  | .credential plan => do return some (← plan.build).middleware
  | .admission settings => .ok (some settings.middleware)
  | .retry policy => .ok (some policy.middleware)
  | .observe settings => .ok (some settings.middleware)
  | .group plans => do return some (.group "group" (← addAll .empty plans).layers)
  | .asLayer plan => do
      return some (.group "as_layer" (Chain.empty.addOptional (← build plan)).layers)
  | .absent => .ok none

/-- A chain with the layers of several plans added to it, one after the other. -/
def addAll (collected : Chain) : List LayerPlan → Except SetupError Chain
  | [] => .ok collected
  | plan :: plans => do addAll (collected.addOptional (← build plan)) plans

end

end LayerPlan

end Outbound
