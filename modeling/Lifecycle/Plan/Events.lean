import Lifecycle.Manifest.Load
import Lifecycle.Plan.Basic

/-!
# Events of plans

A sequence of components is reported by a heading and a line for each component. The lines carry how
far the sequence has come (`Progress`).
-/

namespace Lifecycle

/-- How far a walk through items has come. -/
structure Progress where
  operation : String
  total : Option Nat := none
  current : Option Nat := none
  deriving Repr, DecidableEq

namespace Progress

/-- The start of a walk through `total` items. -/
def start (operation : String) (total : Nat) : Progress := { operation, total := some total }

/-- The walk has come to an item. -/
def reach (p : Progress) (current : Nat) : Progress := { p with current := some current }

/-- How far the walk has come, as fields of a log event. -/
def fields (p : Progress) : List (String × FieldValue) :=
  [("operation", .shown p.operation)]
    ++ (p.current.map fun n => ("current", FieldValue.nat n)).toList
    ++ (p.total.map fun n => ("total", FieldValue.nat n)).toList

end Progress

/-- The events of some components, the first of which is at `position`. -/
def PlannedComponent.eventsFrom (progress : Progress) : Nat → List PlannedComponent → List Event
  | _, [] => []
  | position, c :: cs =>
    ⟨.debug, .plan, "  " ++ c.describe position, (progress.reach position).fields⟩
      :: eventsFrom progress (position + 1) cs

namespace Plan

/-- The events of the sequence in a direction. -/
def sequenceEvents (p : Plan) (d : Direction) : List Event :=
  let progress := Progress.start d.operation (p.sequence d).length
  ⟨.debug, .plan, d.heading, [("operation", .shown progress.operation)]⟩
    :: PlannedComponent.eventsFrom progress 1 (p.sequence d)

end Plan

/-- The events of planning a manifest. -/
def Manifest.planEvents (m : Manifest) : List Event :=
  m.graphEvents ++ m.graph.verifyEvents m.graph.ids ++
    match m.plan with
    | .ok p => p.sequenceEvents .startup
    | .error _ => []

/-- Why a manifest file cannot be planned. -/
inductive PlanError where
  | manifest (e : ManifestError)
  | graph (e : GraphError)
  deriving Repr, DecidableEq

namespace PlanError

/-- The text of the report. -/
def message : PlanError → String
  | manifest e => e.message
  | graph e => e.message

/-- The names along the cycle, if there is one. -/
def cyclePath? : PlanError → Option (List String)
  | manifest _ => none
  | graph e => e.cycle?.map Cycle.path

end PlanError

namespace Plan

/-- Plan a manifest that may have failed to load. -/
def ofResult : Except ManifestError Manifest → Except PlanError Plan
  | .error e => .error (.manifest e)
  | .ok m => m.plan.mapError .graph

/-- **Load a manifest file and plan it.** -/
def load (read : FileReader) (path : String) : Except PlanError Plan :=
  ofResult (Manifest.load read path)

/-- The events of loading a manifest file and planning it. -/
def loadEvents (read : FileReader) (path : String) : List Event :=
  let result := Manifest.load read path
  Manifest.loadEvents path result ++
    match result with
    | .error _ => []
    | .ok m => m.planEvents

end Plan

end Lifecycle
