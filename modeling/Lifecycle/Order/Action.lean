import Lifecycle.Order.Verify

/-!
# Histories of graphs

An `Action` is a call that may change a graph, and `Action.apply` the graph after it, whether the call
succeeds or fails. A graph that is built and verified through this interface is `Graph.after` some
actions on the empty graph.
-/

namespace Lifecycle

/-- A call that may change a graph. -/
inductive Action (α : Type) where
  | addVertex (name : String) (payload : α)
  | addDependency (a b : Nat)
  | modifyPayload (v : Nat) (f : α → α)
  | reset (v : Nat)
  | resetEach (vs : List Nat)
  | resetAll
  | verify (vs : List Nat)
  | verifyRoot (root : Nat)
  | topologicalSort (vs : List Nat)
  | topologicalOrder
  | resolveOrder (v : Nat)

namespace Action

variable {α : Type}

/-- The graph after a call. -/
def apply (g : Graph α) : Action α → Graph α
  | addVertex name payload => g.addVertex name payload
  | addDependency a b => (g.addDependency a b).1
  | modifyPayload v f => g.modifyPayload v f
  | reset v => g.reset v
  | resetEach vs => g.resetEach vs
  | resetAll => g.resetAll
  | verify vs => (g.verify vs).1
  | verifyRoot root => (g.verifyRoot root).1
  | topologicalSort vs => (g.topologicalSort vs).1
  | topologicalOrder => g.topologicalOrder.1
  | resolveOrder v => (g.resolveOrder v).1

/-- Whether a call neither adds an edge nor clears an order. -/
def isSafe : Action α → Bool
  | addDependency _ _ => false
  | reset _ => false
  | resetEach _ => false
  | resetAll => false
  | _ => true

/-- Whether a call adds neither a vertex nor an edge. -/
def keepsShape : Action α → Bool
  | addVertex _ _ => false
  | addDependency _ _ => false
  | _ => true

end Action

/-- The graph after some calls. -/
def Graph.after {α : Type} (g : Graph α) (actions : List (Action α)) : Graph α :=
  actions.foldl Action.apply g

end Lifecycle
