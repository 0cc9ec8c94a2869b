import Lifecycle.CommandLine.Words
import Lifecycle.Text.Quoted

/-!
# Invocations

An `Invocation` is what a command line asks for: the settings of a run and a command.
`Invocation.parse` reads it from the words of the command line and the environment. **The command line
counts before the environment, and that before the defaults**; an option may be given once in front of
the command and once after it, and then the latter counts.

An environment variable is looked at in each scope in which its option is not given.
-/

namespace Lifecycle

/-- What the program is asked to do. -/
inductive Command where
  /-- Verify that a manifest has no cycle. -/
  | check (manifest : String)
  /-- List the components in the order in which they start or shut down. -/
  | order (manifest : String) (shutdown : Bool)
  /-- Write the dependency graph. -/
  | graph (manifest : String)
  /-- Tell the version. -/
  | version
  deriving Repr, DecidableEq

namespace Command

/-- The manifest of a command. -/
def manifest? : Command → Option String
  | check manifest => some manifest
  | order manifest _ => some manifest
  | graph manifest => some manifest
  | version => none

/-- A command as log events show it. -/
def text : Command → String
  | check manifest => "Check \x7b manifest: " ++ Text.quotedPath manifest ++ " \x7d"
  | order manifest shutdown =>
    "Order \x7b manifest: " ++ Text.quotedPath manifest ++ ", shutdown: " ++ toString shutdown ++ " \x7d"
  | graph manifest => "Graph \x7b manifest: " ++ Text.quotedPath manifest ++ " \x7d"
  | version => "Version"

end Command

/-- Where the value of a setting comes from. -/
inductive Source where
  | default
  | environment
  | commandLine
  deriving Repr, DecidableEq

/-- How much a source counts. -/
def Source.rank : Source → Nat
  | default => 0
  | environment => 1
  | commandLine => 2

/-- A value of a setting with its source. -/
structure Sourced where
  value : SettingValue
  source : Source
  deriving Repr, DecidableEq

/-- The more important of a value in front of a command and one after it. -/
def Sourced.merge (program command : Sourced) : Sourced :=
  if command.source.rank < program.source.rank then program else command

/-- The value of an option in a scope. -/
def SettingOption.resolve (env : Environment) (given : List (SettingOption × SettingValue))
    (o : SettingOption) : Except ArgumentError Sourced :=
  match given.lookup o with
  | some v => .ok ⟨v, .commandLine⟩
  | none =>
    match env.get? o.envName with
    | some text => (o.read text).map fun v => ⟨v, .environment⟩
    | none => .ok ⟨o.default, .default⟩

/-- The values of all options in a scope, in order. -/
def resolveSettings (env : Environment) (given : List (SettingOption × SettingValue)) :
    Except ArgumentError (List Sourced) :=
  SettingOption.all.mapM (SettingOption.resolve env given)

/-- What a command line asks for. -/
structure Invocation where
  config : Config := {}
  command : Option Command := none
  deriving Repr, DecidableEq

namespace Invocation

/-- The manifest of a command that needs one. -/
def requireManifest (manifest : Option String) : Except ArgumentError String :=
  match manifest with
  | some m => .ok m
  | none => .error (.missingRequiredArgument [manifestArgument])

/-- The command that the words of its scope describe. -/
def commandOf (name : CommandName) (r : Reading) : Except ArgumentError Command :=
  match name with
  | .check => do return .check (← requireManifest r.manifest)
  | .order => do return .order (← requireManifest r.manifest) r.shutdown
  | .graph => do return .graph (← requireManifest r.manifest)
  | .version => .ok .version

/-- Read the words of a command: the command and the values of its options. -/
def parseCommand (env : Environment) (name : CommandName) (words : List String) :
    Except ArgumentError (Command × List Sourced) := do
  let (r, _) ← Scope.readWords (.command name) {} false words
  let r ← r.settle
  let settings ← resolveSettings env r.given
  return (← commandOf name r, settings)

/-- A configuration with these values. -/
def configOf (settings : List Sourced) : Config :=
  settings.foldl (fun c s => c.set s.value) {}

/-- **Read a command line**, without the name of the program. -/
def parse (env : Environment) (words : List String) : Except ArgumentError Invocation := do
  let (r, rest) ← Scope.readWords .program {} false words
  let inner ← rest.mapM fun (name, words) => parseCommand env name words
  let r ← r.settle
  let settings ← resolveSettings env r.given
  match inner with
  | none => return { config := configOf settings }
  | some (command, inner) =>
    return { config := configOf (List.zipWith Sourced.merge settings inner), command := some command }

end Invocation

end Lifecycle
