import Outbound.Call
import Outbound.Text.Quoted

/-! # Middleware

A middleware is a named layer around a transport. A chain of layers is put around a base so that the
first layer is the outermost.

* `chain` builds the transport of a chain; `chain_append` says that chains can be built part by
  part, and `chain_nil`, `chain_cons` say what single layers do.
* `Chain` collects layers one after the other, as clients and sessions do; `Chain.build_eq` says
  that it builds the chain of what was collected.
* `Middleware.group` makes a single layer of a chain. -/

namespace Outbound

/-- A named layer around a transport. -/
structure Middleware where
  /-- The name of the layer. -/
  name : String
  /-- The transport with the layer around it. -/
  wrap : Transport → Transport

/-- The transport of a chain of layers around a base, the first layer outermost. -/
def chain (layers : List Middleware) (base : Transport) : Transport :=
  layers.foldr (fun layer inner => layer.wrap inner) base

/-- A chain without layers is its base. -/
@[simp] theorem chain_nil (base : Transport) : chain [] base = base := rfl

/-- The first layer is around all others. -/
@[simp] theorem chain_cons (layer : Middleware) (layers : List Middleware) (base : Transport) :
    chain (layer :: layers) base = layer.wrap (chain layers base) := rfl

/-- The last layers of a chain may be put around the base first. -/
theorem chain_append (outer inner : List Middleware) (base : Transport) :
    chain (outer ++ inner) base = chain outer (chain inner base) := by
  simp [chain]

namespace Middleware

/-- A chain of layers as a single one. -/
def group (name : String) (layers : List Middleware) : Middleware :=
  { name, wrap := chain layers }

/-- The names of the layers of a chain. -/
def names (layers : List Middleware) : List String := layers.map (·.name)

/-- A layer as text. -/
def describe (layer : Middleware) : String :=
  Text.recordOf "Middleware" [("name", Text.quoted layer.name)]

/-- A chain of layers as text. -/
def describeChain (layers : List Middleware) : String :=
  Text.recordOf "ChainBuilder" [("middleware", Text.listOf (layers.map describe))]

end Middleware

/-! ## Collecting layers -/

/-- The layers of a chain that is not built yet, in the order in which they were added. -/
structure Chain where
  /-- The layers, from the outside in. -/
  layers : List Middleware

namespace Chain

/-- The chain without layers. -/
def empty : Chain := ⟨[]⟩

/-- Adds a layer, which goes inside all layers added before it. -/
def add (collected : Chain) (layer : Middleware) : Chain := ⟨collected.layers ++ [layer]⟩

/-- Adds a layer if there is one. -/
def addOptional (collected : Chain) (layer : Option Middleware) : Chain :=
  ⟨collected.layers ++ layer.toList⟩

/-- The names of the layers, from the outside in. -/
def names (collected : Chain) : List String := Middleware.names collected.layers

/-- The transport of the layers around a base: from the last one added to the first one, each is put
around what there is so far. -/
def build (collected : Chain) (base : Transport) : Transport :=
  collected.layers.reverse.foldl (fun inner layer => layer.wrap inner) base

/-- What is built is the chain of the layers. -/
theorem build_eq (collected : Chain) (base : Transport) :
    collected.build base = chain collected.layers base := by
  rw [build, List.foldl_reverse, chain]

/-- Layers that are added one after the other stand behind those added before. -/
theorem layers_foldl_add (collected : Chain) (added : List Middleware) :
    (added.foldl add collected).layers = collected.layers ++ added := by
  induction added generalizing collected with
  | nil => rw [List.foldl_nil, List.append_nil]
  | cons layer added inductionHypothesis =>
      rw [List.foldl_cons, inductionHypothesis, add, List.append_assoc, List.singleton_append]

end Chain

end Outbound
