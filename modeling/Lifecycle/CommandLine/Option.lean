import Lifecycle.Decimal.Basic
import Lifecycle.Environment.Basic
import Lifecycle.Setting.Basic

/-!
# Options of the command line

The five settings of a run are options of the command line, in front of a command and after it. Each
may also be given by an environment variable. `SettingOption.read` reads the text of an option; names
are written exactly, though aliases are allowed.
-/

namespace Lifecycle

/-- The commands of the program. -/
inductive CommandName where
  | check
  | order
  | graph
  | version
  deriving Repr, DecidableEq

/-- The word for a command. -/
def CommandName.word : CommandName → String
  | check => "check"
  | order => "order"
  | graph => "graph"
  | version => "version"

/-- The command with a word. -/
def CommandName.ofWord? (word : String) : Option CommandName :=
  [check, order, graph, version].find? (·.word == word)

/-- What ends the reading of a command line early: a fault, or a request for information. Options and
arguments are named as in `--output <OUTPUT>`. -/
inductive ArgumentError where
  | unknownArgument (arg : String)
  /-- A text that is not among the values of an option, or is absent. -/
  | invalidValue (arg value : String)
  /-- A text that is no number in range. -/
  | valueValidation (arg value : String)
  | missingRequiredArgument (args : List String)
  | invalidSubcommand (word : String)
  /-- An option that is given twice. -/
  | argumentConflict (arg : String)
  /-- A value for an option that takes none. -/
  | tooManyValues (arg value : String)
  /-- Help is asked for, perhaps for a command. -/
  | displayHelp (command : Option CommandName)
  /-- The version is asked for, perhaps of a command. -/
  | displayVersion (command : Option CommandName)
  deriving Repr, DecidableEq

/-- The exit code of a run that ends this way. -/
def ArgumentError.exitCode : ArgumentError → Nat
  | displayHelp _ => 0
  | displayVersion _ => 0
  | _ => 2

/-- The options that give the settings of a run. -/
inductive SettingOption where
  | logLevel
  | logFormat
  | logOutput
  | color
  | output
  deriving Repr, DecidableEq

/-- A value of one of the settings. -/
inductive SettingValue where
  | logLevel (n : Nat)
  | logFormat (f : LogFormat)
  | logOutput (o : LogOutput)
  | color (i : ColorIntent)
  | output (f : OutputFormat)
  deriving Repr, DecidableEq

/-- Change a setting. -/
def Config.set (c : Config) : SettingValue → Config
  | .logLevel n => { c with logLevel := n }
  | .logFormat f => { c with logFormat := f }
  | .logOutput o => { c with logOutput := o }
  | .color i => { c with color := i }
  | .output f => { c with output := f }

namespace SettingOption

/-- The options in order. -/
def all : List SettingOption := [logLevel, logFormat, logOutput, color, output]

/-- The long name, which follows two dashes. -/
def longName : SettingOption → String
  | logLevel => "log-level"
  | logFormat => "log-format"
  | logOutput => "log-output"
  | color => "color"
  | output => "output"

/-- The short name, which follows one dash. -/
def shortName? : SettingOption → Option Char
  | color => some 'c'
  | output => some 'o'
  | _ => none

/-- The environment variable. -/
def envName : SettingOption → String
  | logLevel => "FORTRESS_LOG_LEVEL"
  | logFormat => "FORTRESS_LOG_FORMAT"
  | logOutput => "FORTRESS_LOG_OUTPUT"
  | color => "FORTRESS_COLOR"
  | output => "FORTRESS_OUTPUT"

/-- How a report names an option. -/
def display : SettingOption → String
  | logLevel => "--log-level <LOG_LEVEL>"
  | logFormat => "--log-format <LOG_FORMAT>"
  | logOutput => "--log-output <LOG_OUTPUT>"
  | color => "--color <COLOR>"
  | output => "--output <OUTPUT>"

/-- The setting of a configuration. -/
def get (o : SettingOption) (c : Config) : SettingValue :=
  match o with
  | logLevel => .logLevel c.logLevel
  | logFormat => .logFormat c.logFormat
  | logOutput => .logOutput c.logOutput
  | color => .color c.color
  | output => .output c.output

/-- The value of an option that is given nowhere. -/
def default (o : SettingOption) : SettingValue := o.get {}

/-- A number below 256, with or without a sign. -/
def readByte? (text : String) : Option Nat :=
  let (negative, digits) := match text.toList with
    | '-' :: cs => (true, cs)
    | '+' :: cs => (false, cs)
    | cs => (false, cs)
  if digits.isEmpty || !digits.all Char.isDigit then none
  else
    let n := Decimal.digitsValue digits
    if 255 < n || (negative && 0 < n) then none else some n

/-- A value by its name or an alias. -/
def readChoice {α : Type} [Choice α] (o : SettingOption) (wrap : α → SettingValue) (text : String) :
    Except ArgumentError SettingValue :=
  match Choice.ofName? (α := α) text with
  | some a => .ok (wrap a)
  | none => .error (.invalidValue o.display text)

/-- **Read the text of an option.** -/
def read (o : SettingOption) (text : String) : Except ArgumentError SettingValue :=
  match o with
  | logLevel =>
    match readByte? text with
    | some n => .ok (.logLevel n)
    | none => .error (.valueValidation o.display text)
  | logFormat => readChoice o .logFormat text
  | logOutput => readChoice o .logOutput text
  | color => readChoice o .color text
  | output => readChoice o .output text

end SettingOption

end Lifecycle
