import Lifecycle.Json.Printer
import Lifecycle.Plan.Graph

/-!
# Lifecycle plans

A `Plan` is a sequence in which the components of a manifest can start: each after all that it
requires. They shut down in the reverse sequence. `Manifest.plan` fails only if the requirements form
a cycle.
-/

namespace Lifecycle

/-- A component in a plan. -/
structure PlannedComponent where
  name : String
  /-- The length of the longest chain of requirements below the component. -/
  order : Nat
  role : Option String := none
  requires : List String := []
  external : Bool := false
  deriving Repr, DecidableEq, Inhabited

namespace PlannedComponent

/-- A line about the component at a position. Requirements are listed above order 0 only. -/
def describe (c : PlannedComponent) (position : Nat) : String :=
  let line := s!"#{position} ({c.order}) : {c.name}"
  if c.order > 0 then line ++ " [ " ++ ", ".intercalate c.requires ++ " ]" else line

/-- A planned component as a member of a JSON document. A role that is absent is left out. -/
def toJson (c : PlannedComponent) : Json :=
  .obj ([("name", .str c.name), ("order", .nat c.order)]
    ++ (c.role.map fun r => ("role", Json.str r)).toList
    ++ [("requires", .strs c.requires), ("external", .bool c.external)])

/-- Lines about some components, the first of which is at `position`. -/
def describeFrom : Nat → List PlannedComponent → List String
  | _, [] => []
  | position, c :: cs => c.describe position :: describeFrom (position + 1) cs

end PlannedComponent

/-- The components of a manifest in the order in which they start. -/
structure Plan where
  startup : List PlannedComponent := []
  deriving Repr, DecidableEq, Inhabited

/-- The direction of a sequence of components. -/
inductive Direction where
  | startup
  | shutdown
  deriving Repr, DecidableEq

namespace Direction

/-- What the sequence is called in log events. -/
def operation : Direction → String
  | startup => "startup"
  | shutdown => "shutdown"

/-- The heading of a listing. -/
def heading : Direction → String
  | startup => "Component initialization order:"
  | shutdown => "Component shutdown order:"

end Direction

namespace Plan

/-- How many components are planned. -/
def size (p : Plan) : Nat := p.startup.length

/-- Whether no component is planned. -/
def isEmpty (p : Plan) : Bool := p.startup.isEmpty

/-- The components in the order in which they shut down. -/
def shutdown (p : Plan) : List PlannedComponent := p.startup.reverse

/-- The components in a direction. -/
def sequence (p : Plan) : Direction → List PlannedComponent
  | .startup => p.startup
  | .shutdown => p.shutdown

/-- The component with a name. -/
def get? (p : Plan) (name : String) : Option PlannedComponent := p.startup.find? (·.name == name)

/-- The components that are required but not declared. -/
def external (p : Plan) : List PlannedComponent := p.startup.filter (·.external)

/-- A manifest that declares the planned components in the order in which they start. -/
def toManifest (p : Plan) : Manifest :=
  ⟨p.startup.map fun c => { name := c.name, role := c.role, requires := c.requires }⟩

/-- A plan as a JSON document. -/
def toJson (p : Plan) : Json := .obj [("startup", .arr (p.startup.map PlannedComponent.toJson))]

end Plan

/-- What a graph says about the component behind a vertex. -/
def ComponentGraph.planned? (g : ComponentGraph) (v : Nat) : Option PlannedComponent :=
  (g.vertex? v).map fun x =>
    { name := x.label, order := x.order, role := x.payload.role
      requires := g.dependencyLabels v, external := x.payload.external }

/-- **Plan a manifest.** -/
def Manifest.plan (m : Manifest) : Except GraphError Plan :=
  match m.buildGraph with
  | .error e => .error e
  | .ok g =>
    match g.topologicalOrder with
    | (_, .error e) => .error e
    | (g, .ok vs) => .ok ⟨vs.filterMap (ComponentGraph.planned? g)⟩

end Lifecycle
