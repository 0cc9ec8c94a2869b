import Lifecycle.Log.Event
import Lifecycle.Manifest.Basic
import Lifecycle.Order.Events

/-!
# The graph of a manifest

Each name that a manifest mentions is one vertex of its graph (`Manifest.graph`). A component that is
declared twice is merged: the first role counts, and the requirements add up. A name that is required
but never declared gets a vertex that is marked as external.

`Manifest.buildGraph` does so through the checked interface of graphs, which refuses an edge with a
foreign end.
-/

namespace Lifecycle

/-- What is known of a component of a graph. -/
structure Standing where
  role : Option String := none
  /-- Required by some component but declared by none. -/
  external : Bool := false
  deriving Repr, DecidableEq, Inhabited

/-- A declaration of a component with that standing. -/
def Standing.declare (s : Standing) (role : Option String) : Standing :=
  { role := s.role <|> role, external := false }

/-- The graph of the components of a manifest. -/
abbrev ComponentGraph := Graph Standing

namespace ComponentGraph

/-- The vertex of a name, added with that standing if the name is new. -/
def intern (g : ComponentGraph) (name : String) (standing : Standing) : ComponentGraph × Nat :=
  match g.find? name with
  | some v => (g, v)
  | none => (g.addVertex name standing, g.size)

/-- Record that the component behind a vertex requires a name. -/
def require (v : Nat) (g : ComponentGraph) (name : String) : ComponentGraph :=
  let (g, d) := intern g name { external := true }
  g.link v d

/-- The vertex of a declared name, with what the declaration says about it apart from requirements. -/
def declare (g : ComponentGraph) (c : Component) : ComponentGraph × Nat :=
  let (g, v) := intern g c.name {}
  (g.modifyPayload v (Standing.declare · c.role), v)

/-- Add a declaration. -/
def add (g : ComponentGraph) (c : Component) : ComponentGraph :=
  let (g, v) := declare g c
  c.requires.foldl (require v) g

/-- Record a requirement through the checked interface of graphs. -/
def tryRequire (v : Nat) (g : ComponentGraph) (name : String) : Except GraphError ComponentGraph :=
  let (g, d) := intern g name { external := true }
  match g.addDependency v d with
  | (_, .error e) => .error e
  | (g, .ok ()) => .ok g

/-- Add a declaration through the checked interface of graphs. -/
def tryAdd (g : ComponentGraph) (c : Component) : Except GraphError ComponentGraph :=
  let (g, v) := declare g c
  c.requires.foldlM (tryRequire v) g

/-- The events of a name that is interned. -/
def internEvents (g : ComponentGraph) (name : String) : List Event :=
  match g.find? name with
  | some _ => []
  | none => [Graph.vertexEvent name]

/-- The events of recording a requirement of a component. -/
def requireEvents (component : String) (v : Nat) (g : ComponentGraph) (name : String) : List Event :=
  let undeclared :=
    match g.find? name with
    | some _ => []
    | none => [⟨.trace, .plan, s!"{component} requires undeclared component {name}", []⟩]
  let (after, d) := intern g name { external := true }
  undeclared ++ internEvents g name ++ after.dependencyEvents v d

/-- The events of recording some requirements of a component. -/
def requireEachEvents (component : String) (v : Nat) : ComponentGraph → List String → List Event
  | _, [] => []
  | g, name :: names =>
    requireEvents component v g name ++ requireEachEvents component v (require v g name) names

/-- The events of adding a declaration. -/
def addEvents (g : ComponentGraph) (c : Component) : List Event :=
  let (after, v) := declare g c
  internEvents g c.name ++ requireEachEvents c.name v after c.requires

/-- The events of adding some declarations. -/
def addEachEvents : ComponentGraph → List Component → List Event
  | _, [] => []
  | g, c :: cs => addEvents g c ++ addEachEvents (add g c) cs

end ComponentGraph

namespace Manifest

/-- **The graph of a manifest.** -/
def graph (m : Manifest) : ComponentGraph := m.components.foldl ComponentGraph.add Graph.empty

/-- **Build the graph of a manifest**, up to the first edge that is refused. -/
def buildGraph (m : Manifest) : Except GraphError ComponentGraph :=
  m.components.foldlM ComponentGraph.tryAdd Graph.empty

/-- The event of a graph that was built. -/
def builtEvent (g : ComponentGraph) : Event :=
  ⟨.debug, .plan, "Built container dependency graph",
    [("components", .nat g.size), ("dependencies", .nat g.edgeCount)]⟩

/-- The events of building the graph of a manifest. -/
def graphEvents (m : Manifest) : List Event :=
  ComponentGraph.addEachEvents Graph.empty m.components ++ [builtEvent m.graph]

end Manifest

end Lifecycle
