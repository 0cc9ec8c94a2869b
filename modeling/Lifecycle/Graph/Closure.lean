import Lifecycle.Graph.Error
import Lifecycle.Graph.Marks

/-!
# Transitive closure

`Graph.transitiveClosure` lists a root and everything it depends on, directly or not, each vertex
once, in the order in which a depth-first walk first meets them: a vertex, then the closure of its
first dependency, then of its second, skipping what was met before.

The walk keeps the vertices still to visit on a stack. It ends because a visit either marks a new
vertex (`markCount_set_lt`) or shortens the stack.
-/

namespace Lifecycle

namespace Graph

variable {α : Type}

/-- Visit the stacked vertices in turn, setting the mark of each and stacking its dependencies.
`found` collects the visited vertices, last first. -/
def collect (g : Graph α) (seen : Array Bool) (stack found : List Nat) : List Nat :=
  match stack with
  | [] => found
  | v :: rest =>
    if _h : seen.getD v true = false then
      let seen' := seen.setIfInBounds v true
      let fresh := (g.dependencies v).filter fun d => !seen'.getD d true
      g.collect seen' (fresh ++ rest) (v :: found)
    else
      g.collect seen rest found
termination_by (markCount seen false, stack.length)
decreasing_by
  · exact Prod.Lex.left _ _ (markCount_set_lt nofun (getElem?_of_getD _h nofun))
  · exact Prod.Lex.right _ (Nat.lt_succ_self _)

/-- **The transitive closure** of `root`: itself and all it depends on, each once, in depth-first
order with dependencies taken in the order they were added. -/
def transitiveClosure (g : Graph α) (root : Nat) : Except GraphError (List Nat) :=
  if g.contains root then
    .ok (g.collect (Array.replicate g.size false) [root] []).reverse
  else .error (.vertexNotFound root)

end Graph

end Lifecycle
