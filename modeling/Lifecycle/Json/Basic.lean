import Lifecycle.Decimal.Basic

/-!
# JSON values

`Json` is a JSON document. Whole numbers and numbers with a fraction or an exponent are kept apart,
because a reader of settings accepts only the first; the latter keep their digits. The members of an
object stand in the order of the text.
-/

namespace Lifecycle

/-- A JSON value. -/
inductive Json where
  | null
  | bool (b : Bool)
  | int (n : Int)
  | real (d : Decimal)
  | str (s : String)
  | arr (items : List Json)
  | obj (members : List (String × Json))
  deriving Repr, Inhabited

namespace Json

/-- A natural number. -/
def nat (n : Nat) : Json := .int n

/-- A list of strings. -/
def strs (ss : List String) : Json := .arr (ss.map .str)

/-- A list of natural numbers. -/
def nats (ns : List Nat) : Json := .arr (ns.map nat)

/-- A value that may be absent. -/
def opt {α : Type} (f : α → Json) : Option α → Json
  | some a => f a
  | none => .null

/-- The string, if the value is one. -/
def str? : Json → Option String
  | .str s => some s
  | _ => none

/-- The items, if the value is an array. -/
def items? : Json → Option (List Json)
  | .arr items => some items
  | _ => none

/-- The strings, if the value is an array of strings. -/
def strs? (v : Json) : Option (List String) := do (← v.items?).mapM str?

/-- A member of an object: of two with one key the last counts. -/
def member? (key : String) : Json → Option Json
  | .obj members => (members.reverse.find? (·.1 == key)).map Prod.snd
  | _ => none

/-- A field of a record, which may be absent. Records in which it stands twice are rejected. -/
def field? (members : List (String × Json)) (key : String) : Option (Option Json) :=
  if members.countP (·.1 == key) ≤ 1 then some ((obj members).member? key) else none

end Json

end Lifecycle
