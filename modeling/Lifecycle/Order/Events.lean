import Lifecycle.Log.Event
import Lifecycle.Order.Verify

/-!
# Events of graphs and verifications

The events that building and verifying a graph give rise to. A verification reports each vertex as it
is resolved, then either the cycle that ended it or its size and depth; nothing is reported when the
list is refused at once.
-/

namespace Lifecycle.Graph

variable {α : Type}

/-- The event of a new vertex. -/
def vertexEvent (name : String) : Event := ⟨.trace, .vertex, "Adding vertex: " ++ name, []⟩

/-- The events of recording that `a` depends on `b` in `g`. -/
def dependencyEvents (g : Graph α) (a b : Nat) : List Event :=
  if g.contains a && g.contains b && (g.dependencies a).contains b then
    [⟨.trace, .vertex, s!"Dependency already recorded: {g.label a} -> {g.label b}", []⟩]
  else []

/-- The event of a vertex that was resolved. -/
def resolvedEvent (g : Graph α) (v order : Nat) : Event :=
  ⟨.trace, .verifier, "Resolved vertex order", [("vertex", .text (g.label v)), ("order", .nat order)]⟩

/-- The event of a cycle. -/
def cycleEvent (c : Cycle) : Event :=
  ⟨.debug, .verifier, "Cyclic dependency found", [("cycle", .shown c.pathText)]⟩

/-- The events of a pass: its trail, and the cycle if it ends in one. -/
def passEvents (g : Graph α) (p : Walk × Option (List Nat)) : List Event :=
  p.1.finished.reverse.map (fun (v, order) => g.resolvedEvent v order)
    ++ (p.2.map fun vertices => cycleEvent (g.cycleOf vertices)).toList

/-- The event of a verification that succeeded. -/
def verifiedEvent (count depth : Nat) : Event :=
  ⟨.debug, .verifier, "Verified dependency graph", [("vertices", .nat count), ("depth", .nat depth)]⟩

/-- The events of `verify`. -/
def verifyEvents (g : Graph α) (vs : List Nat) : List Event :=
  match g.checkListed vs with
  | .error _ => []
  | .ok () =>
    g.passEvents (g.pass vs) ++
      match (g.verify vs).2 with
      | .ok o => [verifiedEvent vs.length (o.max?.getD 0)]
      | .error _ => []

/-- The events of `verifyRoot`. -/
def verifyRootEvents (g : Graph α) (root : Nat) : List Event :=
  match g.transitiveClosure root with
  | .error _ => []
  | .ok vs => g.verifyEvents vs

/-- The events of `resolveOrder`. -/
def resolveEvents (g : Graph α) (v : Nat) : List Event :=
  if g.contains v then g.passEvents ((Walk.init g.size).resolve g v) else []

end Lifecycle.Graph
