import Lifecycle.CommandLine.Option

/-!
# The words of a command line

A command line has two scopes: the program with its options, and a command with its options and
arguments. `Scope.readWords` reads the words of one scope. Long options may have their value after an
equals sign, short ones may be written together and have a value attached, and after a lone `--` every
word is an argument.

A value or argument that is a word of its own is looked at only when the next thing begins. So a word
that does not belong there is reported before a bad value in front of it, and so is anything that goes
wrong inside of a command.
-/

namespace Lifecycle

/-- What some words belong to. -/
inductive Scope where
  | program
  | command (name : CommandName)
  deriving Repr, DecidableEq

namespace Scope

/-- The command of a scope. -/
def command? : Scope → Option CommandName
  | program => none
  | command name => some name

/-- Whether a manifest is an argument of the scope. -/
def takesManifest : Scope → Bool
  | program => false
  | command .version => false
  | command _ => true

/-- Whether the shutdown flag belongs to the scope. -/
def takesShutdown (s : Scope) : Bool := s == command .order

end Scope

/-- How a report names the argument for the manifest. -/
def manifestArgument : String := "<MANIFEST>"

/-- How a report names the shutdown flag. -/
def shutdownFlag : String := "--shutdown"

/-- What starts with a dash. -/
inductive Switch where
  | setting (o : SettingOption)
  | shutdown
  | help
  | version
  deriving Repr, DecidableEq

/-- The switch with a long name. -/
def Scope.long? (s : Scope) (name : String) : Option Switch :=
  if name = "help" then some .help
  else if name = "version" then some .version
  else if name = "shutdown" && s.takesShutdown then some .shutdown
  else (SettingOption.all.find? (·.longName == name)).map .setting

/-- The switch with a short name. -/
def Scope.short? (s : Scope) (name : Char) : Option Switch :=
  if name = 'h' then some .help
  else if name = 'V' then some .version
  else if name = 's' && s.takesShutdown then some .shutdown
  else (SettingOption.all.find? (·.shortName? == some name)).map .setting

/-- A value or argument that has not been looked at. -/
inductive Pending where
  /-- An option, and its value if that was there. -/
  | setting (o : SettingOption) (text : Option String)
  | manifest (text : String)
  deriving Repr, DecidableEq

/-- What the words of a scope say. -/
structure Reading where
  given : List (SettingOption × SettingValue) := []
  shutdown : Bool := false
  manifest : Option String := none
  pending : Option Pending := none
  deriving Repr

namespace Reading

/-- Whether an option waits for its value. -/
def awaits (r : Reading) : Option SettingOption :=
  match r.pending with
  | some (.setting o none) => some o
  | _ => none

/-- Whether the manifest has been given. -/
def hasManifest (r : Reading) : Bool :=
  r.manifest.isSome ||
    match r.pending with
    | some (.manifest _) => true
    | _ => false

/-- An option with its value, if it has one. -/
def give (r : Reading) (o : SettingOption) (text : Option String) : Except ArgumentError Reading :=
  match text with
  | none => .error (.invalidValue o.display "")
  | some text =>
    if r.given.any (·.1 == o) then .error (.argumentConflict o.display)
    else do
      let v ← o.read text
      return { r with given := r.given ++ [(o, v)] }

/-- Look at what is pending. -/
def settle (r : Reading) : Except ArgumentError Reading :=
  let settled : Reading := { r with pending := none }
  match r.pending with
  | none => .ok settled
  | some (.setting o text) => settled.give o text
  | some (.manifest text) =>
    if text.isEmpty then .error (.invalidValue manifestArgument "")
    else .ok { settled with manifest := some text }

/-- A switch without a value. -/
def flag (r : Reading) (s : Scope) (switch : Switch) : Except ArgumentError Reading := do
  let r ← r.settle
  match switch with
  | .help => throw (.displayHelp s.command?)
  | .version => throw (.displayVersion s.command?)
  | .shutdown =>
    if r.shutdown then throw (.argumentConflict shutdownFlag) else return { r with shutdown := true }
  | .setting o => return { r with pending := some (.setting o none) }

/-- A switch with a value attached. -/
def attach (r : Reading) (o : SettingOption) (text : String) : Except ArgumentError Reading := do
  (← r.settle).give o (some text)

/-- A word that starts with two dashes: a name, and perhaps a value after an equals sign. -/
def long (r : Reading) (s : Scope) (word : List Char) : Except ArgumentError Reading :=
  let name := String.ofList (word.takeWhile (· != '='))
  match s.long? name, word.dropWhile (· != '=') with
  | none, _ => .error (.unknownArgument ("--" ++ name))
  | some switch, [] => r.flag s switch
  | some (.setting o), _ :: value => r.attach o (String.ofList value)
  | some _, _ :: value => .error (.tooManyValues ("--" ++ name) (String.ofList value))

/-- A word that starts with one dash: short names, the last of which may have a value attached. -/
def short (r : Reading) (s : Scope) : List Char → Except ArgumentError Reading
  | [] => .ok r
  | c :: cs =>
    match s.short? c, cs with
    | none, _ => .error (.unknownArgument (String.ofList ['-', c]))
    | some (.setting o), '=' :: value => r.attach o (String.ofList value)
    | some (.setting o), d :: value => r.attach o (String.ofList (d :: value))
    | some switch, cs => do (← r.flag s switch).short s cs

end Reading

/-- The words after `help`: the commands that help is asked for, one inside of the other. -/
def helpFor : List String → ArgumentError
  | [] => .displayHelp none
  | word :: words =>
    if word == "help" || (CommandName.ofWord? word).isSome then
      match words with
      | [] => .displayHelp (CommandName.ofWord? word)
      | inner :: _ => .invalidSubcommand inner
    else .invalidSubcommand word

/-- A word that is neither an option nor a value: the manifest, or a fault. -/
def Reading.argument (r : Reading) (s : Scope) (trailing : Bool) (word : String) :
    Except ArgumentError Reading :=
  if s.takesManifest && !r.hasManifest then do
    let r ← r.settle
    return { r with pending := some (.manifest word) }
  else if s != .program then .error (.unknownArgument word)
  else if trailing && (word == "help" || (CommandName.ofWord? word).isSome) then
    .error (.unknownArgument word)
  else .error (.invalidSubcommand word)

/-- **Read the words of a scope**, up to a command if there is one. `trailing` tells whether a lone
`--` came before. -/
def Scope.readWords (s : Scope) (r : Reading) (trailing : Bool) :
    List String → Except ArgumentError (Reading × Option (CommandName × List String))
  | [] => .ok (r, none)
  | word :: words =>
    if trailing then do readWords s (← r.argument s true word) true words
    else
      let command? := if s = .program && r.awaits.isNone then CommandName.ofWord? word else none
      match command? with
      | some name => .ok (r, some (name, words))
      | none =>
        if s = .program && r.awaits.isNone && word == "help" then .error (helpFor words)
        else match word.toList, r.awaits with
          | ['-', '-'], _ => readWords s r true words
          | '-' :: '-' :: cs, _ => do readWords s (← r.long s cs) false words
          | '-' :: c :: cs, _ => do readWords s (← r.short s (c :: cs)) false words
          | _, some o => readWords s { r with pending := some (.setting o (some word)) } false words
          | _, none => do readWords s (← r.argument s false word) false words

end Lifecycle
