import Lifecycle.Text.CaseFold

/-!
# The settings

How much is logged (`Level`), in which form (`LogFormat`) and to which stream (`LogOutput`), whether
output is coloured (`ColorIntent`), and how results are written (`OutputFormat`). `Config` gathers the
five settings of a run; `Config.validate` rejects a verbosity above the highest, which is the one
combination that can be written but has no meaning.

A `Choice` is a type of settings that lists its values and gives each a name and aliases. On the
command line a value is written exactly (`Choice.ofName?`); elsewhere it is read without regard to
case (`Choice.parse`). **No name belongs to two values** of any setting of this library, so the order
in which the values are tried does not matter.
-/

namespace Lifecycle

/-- A text that names no value of a setting. -/
structure ParseError where
  value : String
  reason : String
  deriving Repr, DecidableEq

/-- The text of the report. -/
def ParseError.message (e : ParseError) : String :=
  s!"Failed to parse configuration value '{e.value}': {e.reason}"

/-- A type of settings with named values. -/
class Choice (α : Type) where
  /-- What the setting is called in reports. -/
  kind : String
  /-- The values. -/
  variants : List α
  /-- The name of a value and its aliases. -/
  names : α → List String

namespace Choice

variable {α : Type} [Choice α]

/-- The name of a value. -/
def name (a : α) : String := (names a).headD ""

/-- The value with that name or alias. -/
def ofName? (s : String) : Option α := variants.find? fun a => (names a).contains s

/-- Whether a text names a value, without regard to case. -/
def isCalled (a : α) (s : String) : Bool :=
  (names a).any fun n => Text.caseFold n == Text.caseFold s

/-- **Read a value** without regard to case. -/
def parse (s : String) : Except ParseError α :=
  match variants.find? fun a => isCalled a s with
  | some a => .ok a
  | none => .error ⟨s, "invalid " ++ kind α⟩

end Choice

/-- How severe a log event is, and which events are of interest. -/
inductive Level where
  | error
  | warning
  | info
  | debug
  | trace
  deriving Repr, DecidableEq

namespace Level

/-- The place of a level: 0 for errors only, 4 for everything. -/
def number : Level → Nat
  | error => 0
  | warning => 1
  | info => 2
  | debug => 3
  | trace => 4

/-- The level of a verbosity. All from 4 on mean everything. -/
def ofVerbosity : Nat → Level
  | 0 => error
  | 1 => warning
  | 2 => info
  | 3 => debug
  | _ => trace

/-- The title of a level. -/
def title : Level → String
  | error => "Error"
  | warning => "Warning"
  | info => "Info"
  | debug => "Debug"
  | trace => "Trace"

end Level

instance : Choice Level where
  kind := "log level"
  variants := [.error, .warning, .info, .debug, .trace]
  names
    | .error => ["error", "err", "fatal", "critical"]
    | .warning => ["warn", "warning"]
    | .info => ["info", "information"]
    | .debug => ["debug", "debugging"]
    | .trace => ["trace", "tracing", "verbose"]

/-- The form of log lines. -/
inductive LogFormat where
  | text
  | json
  | yaml
  deriving Repr, DecidableEq

/-- The title of a log format. -/
def LogFormat.title : LogFormat → String
  | text => "Text"
  | json => "Json"
  | yaml => "Yaml"

instance : Choice LogFormat where
  kind := "log format"
  variants := [.text, .json, .yaml]
  names
    | .text => ["text", "txt", "plain"]
    | .json => ["json"]
    | .yaml => ["yaml", "yml", "pretty"]

/-- The stream that log lines go to. -/
inductive LogOutput where
  | stderr
  | stdout
  deriving Repr, DecidableEq

/-- The title of a log stream. -/
def LogOutput.title : LogOutput → String
  | stderr => "Stderr"
  | stdout => "Stdout"

instance : Choice LogOutput where
  kind := "log output stream"
  variants := [.stderr, .stdout]
  names
    | .stderr => ["stderr"]
    | .stdout => ["stdout"]

/-- Whether output is to be coloured. -/
inductive ColorIntent where
  /-- If the terminal takes colours. -/
  | auto
  | always
  | never
  deriving Repr, DecidableEq

instance : Choice ColorIntent where
  kind := "color intent"
  variants := [.auto, .always, .never]
  names
    | .auto => ["auto", "automatic", "detect", "default"]
    | .always => ["always", "force", "on"]
    | .never => ["never", "off"]

/-- The form of results. -/
inductive OutputFormat where
  | text
  | json
  deriving Repr, DecidableEq

instance : Choice OutputFormat where
  kind := "output format"
  variants := [.text, .json]
  names
    | .text => ["text", "txt", "plain"]
    | .json => ["json"]

/-- The settings of a run. -/
structure Config where
  /-- The verbosity: 0 logs errors only, 4 logs everything. -/
  logLevel : Nat := 0
  logFormat : LogFormat := .text
  logOutput : LogOutput := .stderr
  color : ColorIntent := .auto
  output : OutputFormat := .text
  deriving Repr, DecidableEq, Inhabited

/-- What the logger needs to know. -/
structure LoggerConfig where
  level : Level
  format : LogFormat
  output : LogOutput
  color : Bool
  deriving Repr, DecidableEq

namespace Config

/-- The highest verbosity. -/
def maxLogLevel : Nat := 4

/-- Whether output is coloured on a terminal that takes colours or does not. -/
def colorEnabled (c : Config) (terminalColors : Bool) : Bool :=
  match c.color with
  | .always => true
  | .never => false
  | .auto => terminalColors

/-- The configuration of the logger. -/
def logger (c : Config) (terminalColors : Bool) : LoggerConfig where
  level := Level.ofVerbosity c.logLevel
  format := c.logFormat
  output := c.logOutput
  color := c.colorEnabled terminalColors

/-- Check a configuration; the failure is a reason. -/
def validate (c : Config) : Except String Unit :=
  if c.logLevel ≤ maxLogLevel then .ok ()
  else .error s!"log level {c.logLevel} is above the maximum of {maxLogLevel}"

end Config

end Lifecycle
