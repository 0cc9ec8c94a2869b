import Lifecycle.Setting.Basic

/-!
# Log events

What the library reports while it works is a list of `Event`s: a level, the part of the library that
reports (`Topic`), a message and named fields. Operations do not write anything; a function beside
each says which events it gives rise to.
-/

namespace Lifecycle

/-- The part of the library that reports an event. -/
inductive Topic where
  | vertex
  | verifier
  | manifest
  | plan
  | commands
  | loader
  | logger
  deriving Repr, DecidableEq

/-- The path under which a topic is known to filters of log lines. -/
def Topic.path : Topic → String
  | vertex => "fortress_lib::dag::vertex"
  | verifier => "fortress_lib::dag::verifier"
  | manifest => "fortress_lib::container::manifest"
  | plan => "fortress_lib::container::plan"
  | commands => "fortress_lib::application::commands"
  | loader => "fortress_lib::application::loader"
  | logger => "fortress_lib::logger"

/-- The value of a field. -/
inductive FieldValue where
  | nat (n : Nat)
  | flag (b : Bool)
  /-- A text that log lines quote. -/
  | text (s : String)
  /-- A text that log lines show as it is. -/
  | shown (s : String)
  deriving Repr, DecidableEq

/-- One log event. -/
structure Event where
  level : Level
  topic : Topic
  message : String
  fields : List (String × FieldValue) := []
  deriving Repr, DecidableEq

end Lifecycle
