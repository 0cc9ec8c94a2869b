import Lifecycle.CommandLine.Load
import Lifecycle.Log.Logger
import Lifecycle.Program.Command

/-!
# Running the program

`Program.run` is a run of the program as a function: from its words, its environment and the files it
may read to its exit code and what it writes. A run that fails reports what could not be done and what
caused it; one that cannot even set its variables or its logger breaks off.
-/

namespace Lifecycle

/-- What a run of the program comes to. -/
structure Outcome where
  exitCode : Nat := 0
  stdout : String := ""
  stderr : String := ""
  deriving Repr, DecidableEq

namespace Program

/-- A text with some columns in front of each line; `first` stands in front of the first. -/
def indented (first rest text : String) : String :=
  first ++ ("\n" ++ rest).intercalate (text.splitOn "\n")

/-- A number in five columns, aligned on the right. -/
def inFiveColumns (n : Nat) : String :=
  let digits := toString n
  String.ofList (List.replicate (5 - digits.length) ' ') ++ digits

/-- The causes of a failure, numbered if there are several. -/
def causesText (causes : List String) : String :=
  match causes with
  | [] => ""
  | [cause] => "\n\nCaused by:\n" ++ indented "    " "    " cause
  | causes =>
    "\n\nCaused by:\n" ++ "\n".intercalate (causes.zipIdx.map fun (cause, n) =>
      indented (inFiveColumns n ++ ": ") "       " cause)

/-- The report on a failure. -/
def failureText (message : String) (causes : List String) : String :=
  "Error: " ++ message ++ causesText causes ++ "\n"

/-- Whether a terminal takes colours. -/
def takesColors (env : Environment) : Bool :=
  !env.contains "NO_COLOR" && (env.get? "TERM").any (· != "dumb")

/-- Whether output is coloured if nothing says so: if it goes to a terminal that takes colours and
`CLICOLOR` does not turn them off, or always if `CLICOLOR_FORCE` is set. -/
def colorsByDefault (env : Environment) (terminal : Bool) : Bool :=
  (terminal && takesColors env && (env.get? "CLICOLOR").getD "1" != "0")
    || (env.get? "CLICOLOR_FORCE").getD "0" != "0"

/-- What a run comes to that breaks off. -/
def brokenOff (message : String) : Outcome := { exitCode := 101, stderr := message ++ "\n" }

/-- The text that tells the version of the program, or of a command. -/
def versionLine (command : Option CommandName) : String :=
  let name := match command with
    | none => "fortress"
    | some c => "fortress-" ++ c.word
  s!"{name} {Command.versionText}\n"

/-- The text that tells how to use the program. -/
def helpText : String :=
  "Verify component dependencies and plan startup/shutdown order\n\n"
    ++ "Usage: fortress [OPTIONS] [COMMAND]\n\n"
    ++ "Commands:\n"
    ++ "  check <MANIFEST>       Verify that a manifest has no dependency cycles\n"
    ++ "  order [-s] <MANIFEST>  Print the startup (or shutdown) order of a manifest\n"
    ++ "  graph <MANIFEST>       Print the dependency graph in Graphviz DOT format\n"
    ++ "  version                Show version information\n\n"
    ++ "Options:\n"
    ++ "      --log-level <LOG_LEVEL>    0=error, 1=warn, 2=info, 3=debug, 4=trace\n"
    ++ "      --log-format <LOG_FORMAT>  text, json, yaml\n"
    ++ "      --log-output <LOG_OUTPUT>  stderr, stdout\n"
    ++ "  -c, --color <COLOR>            auto, always, never\n"
    ++ "  -o, --output <OUTPUT>          text, json\n"
    ++ "  -h, --help                     Print help\n"
    ++ "  -V, --version                  Print version\n"

/-- What a run comes to that ends while its words are read. -/
def endedEarly (e : ArgumentError) : Outcome :=
  match e with
  | .displayHelp _ => { stdout := helpText }
  | .displayVersion command => { stdout := versionLine command }
  | e => { exitCode := e.exitCode, stderr := "error: " ++ e.message ++ "\n" }

/-- What a run without a command says. -/
def usageHint (color : Bool) : String :=
  "fortress - dependency-ordered component lifecycles\n"
    ++ styled color "2" "Run 'fortress --help' for usage information" ++ "\n"

/-- Carry out what a command line asks for, with a logger. -/
def carryOut (read : FileReader) (time : String) (logger : Logger) (i : Invocation) : Outcome :=
  let log (stream : LogOutput) (events : List Event) : String :=
    logger.writeTo stream time (Logger.initializedEvent logger.config :: events)
  let color := logger.config.color
  match i.command with
  | none => { stdout := log .stdout [], stderr := log .stderr [] ++ usageHint color }
  | some c =>
    let events := c.events read
    let (result, out) := (c.run read ⟨i.config.output, color⟩).on ""
    match result with
    | .ok () => { stdout := log .stdout events ++ out, stderr := log .stderr events }
    | .error e =>
      { exitCode := 1, stdout := log .stdout events ++ out
        stderr := log .stderr events ++ failureText e.message e.chain.tail }

/-- **Run the program.** `terminal` tells whether its output goes to a terminal, and `time` is the time
that the lines of the log carry. -/
def run (read : FileReader) (env : Environment) (terminal : Bool) (time : String)
    (words : List String) : Outcome :=
  match Invocation.load read env words with
  | (_, .error (.arguments e)) => endedEarly e
  | (_, .error e) =>
    if e.breaksOff then brokenOff e.message
    else { exitCode := 1, stderr := failureText e.message e.causes }
  | (env, .ok i) =>
    let config := i.config.logger (colorsByDefault env terminal)
    match Logger.init .nobody config (env.get? "RUST_LOG") with
    | .ok logger => carryOut read time logger i
    | .error e => brokenOff e.message

/-- The manifest that a run reads, if it reads one. The environment files decide about it too, since a
run ends early if they are faulty. -/
def manifest? (read : FileReader) (env : Environment) (words : List String) : Option String :=
  match (Invocation.load read env words).2 with
  | .error _ => none
  | .ok i => i.command.bind Command.manifest?

end Program

end Lifecycle
