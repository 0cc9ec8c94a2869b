import Lifecycle.Graph.Closure
import Lifecycle.Order.Basic
import Lifecycle.Order.Walk

/-!
# Verification and topological sorting

`Graph.verify` checks that a list of vertices is closed under dependency and free of cycles, and
commits their orders. The phases are kept apart, so that a failure never leaves a partial result:

1. every listed handle is a vertex of the graph, and every dependency of a listed vertex is listed
   (`Graph.checkListed`); a failure leaves the graph as it was;
2. one pass resolves the listed vertices (`Graph.pass`); a cycle leaves the listed vertices at
   order 0;
3. the orders are committed to the vertices and returned as a table.

On top of it stand `verifyRoot` (a vertex with its transitive closure), `topologicalSort` (the list
**stably sorted** so that dependencies come first; `sortInPlace` gives the list after the call whether
or not it succeeds), `topologicalOrder` (all vertices) and `resolveOrder`, which commits what it
resolved and changes nothing when it fails. Each returns the graph after the call beside its result.
-/

namespace Lifecycle

/-- The order of a vertex after a pass, and 0 if the pass did not reach it. -/
def Walk.orderD (w : Walk) (v : Nat) : Nat := (w.order? v).getD 0

/-- Compare two vertices by the orders committed to them. -/
def Vertex.compareOrder {α : Type} (x y : Vertex α) : Ordering := compare x.order y.order

namespace Graph

variable {α : Type}

/-- A closed list of vertices as a report names it. -/
def cycleOf (g : Graph α) (vertices : List Nat) : Cycle := ⟨vertices.map g.label, vertices⟩

/-- The first listed vertex that needs an unlisted one, with the newest such dependency. -/
def unlisted? (g : Graph α) (vs : List Nat) : Option (Nat × Nat) :=
  let listed := vs.foldl (fun t v => t.setIfInBounds v true) (Array.replicate g.size false)
  vs.findSome? fun v =>
    ((g.newestFirst v).find? fun d => !listed.getD d false).map fun d => (v, d)

/-- Check that a list names vertices of the graph only and every dependency of each. -/
def checkListed (g : Graph α) (vs : List Nat) : Except GraphError Unit :=
  match vs.find? (!g.contains ·) with
  | some v => .error (.vertexNotFound v)
  | none =>
    match g.unlisted? vs with
    | some (v, d) => .error (.missingVertex (g.label d) (g.label v))
    | none => .ok ()

/-- Resolve the listed vertices from a clean slate, up to the first cycle. -/
def pass (g : Graph α) (vs : List Nat) : Walk × Option (List Nat) :=
  (Walk.init g.size).resolveEach g vs

/-- **Verify** that the listed vertices have no cycle, and commit their orders. -/
def verify (g : Graph α) (vs : List Nat) : Graph α × Except GraphError Orders :=
  match g.checkListed vs with
  | .error e => (g, .error e)
  | .ok () =>
    match g.pass vs with
    | (_, some vertices) =>
      let c := g.cycleOf vertices
      (g.resetEach vs, .error (.cycle c))
    | (w, none) =>
      (vs.foldl (fun g v => g.setOrder v (w.orderD v)) g,
        .ok (vs.foldl (fun o v => o.insert v (w.orderD v)) ∅))

/-- Verify a vertex together with everything it depends on. -/
def verifyRoot (g : Graph α) (root : Nat) : Graph α × Except GraphError Orders :=
  match g.transitiveClosure root with
  | .error e => (g, .error e)
  | .ok vs => g.verify vs

/-- Verify a list and sort it so that dependencies come first. Vertices of equal order keep their
places relative to each other. -/
def topologicalSort (g : Graph α) (vs : List Nat) :
    Graph α × Except GraphError (Orders × List Nat) :=
  match g.verify vs with
  | (g', .error e) => (g', .error e)
  | (g', .ok o) =>
    (g', .ok (o, vs.mergeSort fun a b => decide ((o.get? a).getD 0 ≤ (o.get? b).getD 0)))

/-- Sort a list in place: the graph and the list after the call, and its result. -/
def sortInPlace (g : Graph α) (vs : List Nat) : Graph α × List Nat × Except GraphError Orders :=
  match g.topologicalSort vs with
  | (g', .error e) => (g', vs, .error e)
  | (g', .ok (o, sorted)) => (g', sorted, .ok o)

/-- Every vertex, dependencies first; vertices of equal order in order of insertion. -/
def topologicalOrder (g : Graph α) : Graph α × Except GraphError (List Nat) :=
  match g.topologicalSort g.ids with
  | (g', .error e) => (g', .error e)
  | (g', .ok (_, sorted)) => (g', .ok sorted)

/-- Resolve one vertex and everything below it, commit what was resolved and return its order. -/
def resolveOrder (g : Graph α) (v : Nat) : Graph α × Except GraphError Nat :=
  if g.contains v then
    match (Walk.init g.size).resolve g v with
    | (_, some vertices) =>
      let c := g.cycleOf vertices
      (g, .error (.cycle c))
    | (w, none) =>
      (w.finished.foldl (fun g (u, order) => g.setOrder u order) g, .ok (w.orderD v))
  else (g, .error (.vertexNotFound v))

/-- Compare two vertices by their committed orders, unless one is foreign. -/
def compareOrders (g : Graph α) (a b : Nat) : Option Ordering :=
  match g.vertex? a, g.vertex? b with
  | some x, some y => some (x.compareOrder y)
  | _, _ => none

/-- A list stably sorted by the orders committed to its vertices. -/
def sortByCommitted (g : Graph α) (vs : List Nat) : List Nat :=
  vs.mergeSort fun a b => ((g.compareOrders a b).getD .eq).isLE

end Graph

end Lifecycle
