import Lifecycle.Log.Filter
import Lifecycle.Log.Format

/-!
# The logger

A process has at most one recipient of log events (`Recipient`). `Logger.init` makes it the logger of
this library, which filters events and writes them to a stream; it fails if there is a recipient
already.
-/

namespace Lifecycle

/-- Why the logger cannot be set up. -/
inductive LoggerError where
  | initializationFailed (reason : String)
  | alreadyInitialized
  /-- A directive of the filter is torn. The process ends with this. -/
  | tornFilter (text : String)
  deriving Repr, DecidableEq

/-- The text of the report. -/
def LoggerError.message : LoggerError → String
  | initializationFailed reason => s!"Failed to initialize tracing subscriber: {reason}"
  | alreadyInitialized => "Logger already initialized"
  | tornFilter text => s!"A part of the filter '{text}' would start or end within a character"

/-- A logger: which events it takes and how it writes them. -/
structure Logger where
  filter : Filter
  config : LoggerConfig
  deriving Repr

/-- What takes the log events of a process. -/
inductive Recipient where
  | nobody
  | logger (l : Logger)
  /-- Something outside of this library. -/
  | foreign

namespace Logger

/-- The logger of a configuration. A filter may be given that takes the place of the level. -/
def ofConfig (config : LoggerConfig) (filter : Option String) : Except LoggerError Logger :=
  match Filter.ofLevel config.level filter with
  | some f => .ok ⟨f, config⟩
  | none => .error (.tornFilter (filter.getD ""))

/-- **Set up the logger** of a process. -/
def init (recipient : Recipient) (config : LoggerConfig) (filter : Option String) :
    Except LoggerError Logger :=
  match recipient with
  | .nobody => ofConfig config filter
  | .logger _ => .error .alreadyInitialized
  | .foreign => do
    let _ ← ofConfig config filter
    throw (.initializationFailed "a global default trace dispatcher has already been set")

/-- The event of a logger that was set up. -/
def initializedEvent (config : LoggerConfig) : Event :=
  ⟨.debug, .logger, "Logger initialized",
    [("level", .shown config.level.title), ("format", .shown config.format.title),
      ("output", .shown config.output.title), ("color", .flag config.color)]⟩

/-- The text that a logger writes about some events, all of which happened at one time. -/
def write (l : Logger) (time : String) (events : List Event) : String :=
  String.join ((events.filter l.filter.allows).map fun e =>
    e.render l.config.format l.config.color time)

/-- What a logger writes to a stream. -/
def writeTo (l : Logger) (stream : LogOutput) (time : String) (events : List Event) : String :=
  if l.config.output = stream then l.write time events else ""

/-- Set up the logger once for each configuration, with what comes of each. A torn filter ends it. -/
def initEach (filter : Option String) : Recipient → List LoggerConfig →
    Recipient × List (Except LoggerError Unit)
  | r, [] => (r, [])
  | r, c :: cs =>
    match init r c filter with
    | .ok l =>
      let (r, results) := initEach filter (.logger l) cs
      (r, .ok () :: results)
    | .error (.tornFilter text) => (r, [.error (.tornFilter text)])
    | .error e =>
      let (r, results) := initEach filter r cs
      (r, .error e :: results)

end Logger

end Lifecycle
