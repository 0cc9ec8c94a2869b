import Lifecycle.CommandLine.Invocation
import Lifecycle.Environment.Colors
import Lifecycle.Environment.Load

/-!
# Loading the configuration of a run

`Invocation.load` takes the steps that lead from a command line to checked settings: the environment
files are loaded, the command line is read, and the colour variables decide about colours if nothing
else did (`Invocation.finish`).
-/

namespace Lifecycle

/-- Why the configuration of a run cannot be loaded. -/
inductive ConfigError where
  | environmentFile (e : EnvironmentFileError)
  | environment (d : DuplicateVariable)
  | arguments (e : ArgumentError)
  | invalid (reason : String)
  deriving Repr, DecidableEq

namespace ArgumentError

/-- The text of the report. -/
def message : ArgumentError → String
  | unknownArgument arg => s!"unexpected argument '{arg}' found"
  | invalidValue arg "" => s!"a value is required for '{arg}' but none was supplied"
  | invalidValue arg value => s!"invalid value '{value}' for '{arg}'"
  | valueValidation arg value => s!"invalid value '{value}' for '{arg}'"
  | missingRequiredArgument args => "required arguments were not provided: " ++ ", ".intercalate args
  | invalidSubcommand word => s!"unrecognized subcommand '{word}'"
  | argumentConflict arg => s!"the argument '{arg}' cannot be used multiple times"
  | tooManyValues arg value => s!"unexpected value '{value}' for '{arg}' found; no more were expected"
  | displayHelp _ => "help"
  | displayVersion _ => "version"

end ArgumentError

/-- The text of the report. -/
def ConfigError.message : ConfigError → String
  | environmentFile e => e.message
  | environment d => s!"Failed to parse environment variables: {d.message}"
  | arguments e => s!"Failed to parse command line: {e.message}"
  | invalid reason => s!"Configuration validation failed: {reason}"

/-- What the report names as causes, each the cause of the one before. -/
def ConfigError.causes : ConfigError → List String
  | environmentFile e =>
    match e.fault with
    | .line _ _ => [e.fault.message]
    | .unreadable _ => [e.fault.message, e.fault.message]
    | .nul _ => []
  | environment d => [d.message]
  | arguments e => [e.message]
  | invalid _ => []

/-- Whether a run breaks off without a report. -/
def ConfigError.breaksOff : ConfigError → Bool
  | environmentFile ⟨_, .nul _⟩ => true
  | _ => false

namespace Invocation

/-- Let the colour variables decide about colours that the command line leaves open, and check the
settings. -/
def finish (colors : ColorVariables) (i : Invocation) : Except ConfigError Invocation :=
  let config :=
    if i.config.color = .auto then { i.config with color := colors.apply .auto } else i.config
  match config.validate with
  | .error reason => .error (.invalid reason)
  | .ok () => .ok { i with config }

/-- Read a command line in an environment, with the files loaded. -/
def resolve (env : Environment) (words : List String) : Except ConfigError Invocation := do
  let i ← (parse env words).mapError .arguments
  let colors ← (ColorVariables.ofEnvironment env).mapError .environment
  i.finish colors

/-- **Load the configuration of a run.** The environment after it comes with the result. -/
def load (read : FileReader) (env : Environment) (words : List String) :
    Environment × Except ConfigError Invocation :=
  match env.loadEach read Environment.standardFiles with
  | (env, .error e) => (env, .error (.environmentFile e))
  | (env, .ok ()) => (env, resolve env words)

end Invocation

end Lifecycle
