import Lifecycle.Graph.Basic

/-!
# Failures of dependency graphs

A `GraphError` says why an operation on a graph failed: a cycle, a listed vertex that needs an
unlisted one, or a handle of another graph. `GraphError.message` is the one place that words them.
-/

namespace Lifecycle

/-- A dependency cycle. It is closed: the last entry repeats the first, so a vertex that depends on
itself is reported as `a → a`. -/
structure Cycle where
  path : List String
  vertices : List Nat
  deriving Repr, DecidableEq

namespace Cycle

/-- The labels along the cycle, in the direction of dependency. -/
def pathText (c : Cycle) : String := " → ".intercalate c.path

/-- The text of the report. -/
def message (c : Cycle) : String := "Cyclic dependency detected: " ++ c.pathText

/-- The vertices on the cycle without the closing repeat. A list of fewer than two entries has no
repeat to drop. -/
def participants (c : Cycle) : List Nat :=
  if c.vertices.dropLast.isEmpty then c.vertices else c.vertices.dropLast

end Cycle

/-- Why an operation on a dependency graph failed. -/
inductive GraphError where
  /-- The vertices cannot be ordered. -/
  | cycle (c : Cycle)
  /-- A listed vertex needs one that is not listed. -/
  | missingVertex (vertex requiredBy : String)
  /-- A handle of another graph. -/
  | vertexNotFound (index : Nat)
  deriving Repr, DecidableEq

namespace GraphError

/-- The text of the report. -/
def message : GraphError → String
  | cycle c => c.message
  | missingVertex vertex requiredBy =>
    s!"A dependent vertex ({vertex}) of vertex ({requiredBy}) was not included in the vertices list"
  | vertexNotFound index => s!"Vertex not found: #{index}"

/-- The cycle, if the failure is one. -/
def cycle? : GraphError → Option Cycle
  | cycle c => some c
  | _ => none

end GraphError

namespace Graph

variable {α : Type}

/-- Check that both ends of an edge are vertices of the graph. -/
def checkEdge (g : Graph α) (a b : Nat) : Except GraphError Unit :=
  if !g.contains a then .error (.vertexNotFound a)
  else if !g.contains b then .error (.vertexNotFound b)
  else .ok ()

/-- Record that `a` depends on `b`; the graph after the call comes with the result. Cycles are not
looked for here; they are found when the graph is verified. -/
def addDependency (g : Graph α) (a b : Nat) : Graph α × Except GraphError Unit :=
  match g.checkEdge a b with
  | .error e => (g, .error e)
  | .ok () => (g.link a b, .ok ())

end Graph

end Lifecycle
