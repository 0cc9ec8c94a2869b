import Lifecycle.CommandLine.Invocation
import Lifecycle.Graph.Dot
import Lifecycle.Log.Format
import Lifecycle.Plan.Events

/-!
# Carrying out commands

`Command.run` carries out a command: it loads the manifest and adds to an output (`Writing`), line by
line. What was written before a failure would stay written. The events on the way are given by
`Command.events`.
-/

namespace Lifecycle

/-- How the output of a command looks. -/
structure OutputStyle where
  format : OutputFormat := .text
  color : Bool := false
  deriving Repr, DecidableEq

/-- A command that failed: why, and what was to be done, if the report says so. -/
structure CommandError where
  context : Option String := none
  cause : PlanError
  deriving Repr, DecidableEq

/-- What a report on a plan that failed names, each the cause of the one before. -/
def PlanError.chain : PlanError → List String
  | manifest (.unreadable path cause) => [(ManifestError.unreadable path cause).message, cause.message]
  | e => [e.message]

/-- What a report on a command that failed names, each the cause of the one before. -/
def CommandError.chain (e : CommandError) : List String := e.context.toList ++ e.cause.chain

/-- What a report on a command that failed names first. -/
def CommandError.message (e : CommandError) : String := e.context.getD e.cause.message

/-- A command at work: it adds to an output and may fail. What it has written stays written. -/
abbrev Writing (α : Type) := ExceptT CommandError (StateM String) α

namespace Writing

/-- What a command comes to that adds to an output, and the output after it. -/
def on {α : Type} (w : Writing α) (output : String) : Except CommandError α × String := w.run.run output

/-- Add a text. -/
def text (s : String) : Writing Unit := modify (· ++ s)

/-- Add a line. -/
def line (s : String) : Writing Unit := text (s ++ "\n")

end Writing

namespace Command

/-- The version of the program. -/
def versionText : String := "0.0.0-dev"

/-- Load a manifest and plan it. -/
def loadPlan (read : FileReader) (manifest : String) : Except CommandError Plan :=
  (Plan.load read manifest).mapError fun e => ⟨some ("Failed to plan components in " ++ manifest), e⟩

/-- Verify a manifest, and tell how many components it has and which are not declared. -/
def writeCheck (read : FileReader) (style : OutputStyle) (manifest : String) : Writing Unit := do
  let p ← loadPlan read manifest
  match style.format with
  | .text =>
    Writing.line (styled style.color "32" "✓" ++ s!" {p.size} components, no cycles")
    let count := p.external.length
    if count > 0 then
      Writing.line
        ("  " ++ styled style.color "33" (toString count) ++ " required but not declared")
  | .json =>
    Writing.line (Json.obj [("acyclic", .bool true), ("components", .nat p.size),
      ("external", .strs (p.external.map (·.name))), ("manifest", .str manifest)]).pretty

/-- List the components of a manifest in a direction. -/
def writeOrder (read : FileReader) (style : OutputStyle) (manifest : String) (d : Direction) :
    Writing Unit := do
  let p ← loadPlan read manifest
  match style.format with
  | .text =>
    Writing.line (styled style.color "1" d.heading)
    (PlannedComponent.describeFrom 1 (p.sequence d)).forM fun line => Writing.line ("  " ++ line)
  | .json => Writing.line (Json.arr ((p.sequence d).map PlannedComponent.toJson)).pretty

/-- Write the graph of a manifest. It need not be free of cycles. -/
def writeGraph (read : FileReader) (manifest : String) : Writing Unit := do
  let m ← (Manifest.load read manifest).mapError fun e =>
    CommandError.mk (some ("Failed to load " ++ manifest)) (.manifest e)
  let g ← m.buildGraph.mapError fun e => CommandError.mk none (.graph e)
  Writing.text g.toDot

/-- The direction that `order` lists. -/
def directionOf (shutdown : Bool) : Direction := if shutdown then .shutdown else .startup

/-- **Carry out a command.** -/
def run (read : FileReader) (style : OutputStyle) : Command → Writing Unit
  | check manifest => writeCheck read style manifest
  | order manifest shutdown => writeOrder read style manifest (directionOf shutdown)
  | graph manifest => writeGraph read manifest
  | version => Writing.line s!"fortress {versionText}"

/-- The event of a manifest that has no cycle. -/
def verifiedEvent (p : Plan) : Event :=
  ⟨.info, .commands, "Manifest verified", [("components", .nat p.size)]⟩

/-- The events of a plan that a command loads, and those that follow if that succeeds. -/
def planEvents (read : FileReader) (manifest : String) (after : Plan → List Event) : List Event :=
  Plan.loadEvents read manifest ++
    match Plan.load read manifest with
    | .error _ => []
    | .ok p => after p

/-- The events of carrying out a command. -/
def events (read : FileReader) (c : Command) : List Event :=
  ⟨.debug, .commands, "Executing command", [("command", .shown c.text)]⟩ ::
    match c with
    | check manifest => planEvents read manifest fun p => [verifiedEvent p]
    | order manifest shutdown =>
      planEvents read manifest fun p => if shutdown then p.sequenceEvents .shutdown else []
    | graph manifest =>
      let result := Manifest.load read manifest
      Manifest.loadEvents manifest result ++
        match result with
        | .error _ => []
        | .ok m => m.graphEvents
    | version => []

end Command

end Lifecycle
