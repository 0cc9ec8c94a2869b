import Lifecycle.Decode.Mismatch
import Lifecycle.Json.Basic
import Lifecycle.Setting.Basic

/-!
# Configurations in JSON

`Config.ofJson` takes a configuration out of a JSON document: an object with the settings by name, or
an array with the settings in order. A setting that is absent has its default, and other members of an
object are ignored. The verbosity is a number below 256. The other settings are given by their names
alone, without aliases and in lower case; the name may also be the only key of an object that holds
null.

The first difference is reported. The members of an object are looked at in alphabetical order.
-/

namespace Lifecycle

/-- What stands in a place of a JSON document. An integer beyond 64 bits is a number with a fraction to
its readers. -/
def Found.ofJson : Json → Found
  | .null => .null
  | .bool b => .boolean b
  | .int n =>
    if -Int.pow 2 63 ≤ n ∧ n < Int.pow 2 64 then .integer n
    else .float ((Decimal.mk (n < 0) n.natAbs 0).text .compact)
  | .real d => .float (d.text .compact)
  | .str s => .string s
  | .arr _ => .sequence
  | .obj _ => .map

namespace Json

/-- The members of an object in alphabetical order. Of two with one key the last counts. -/
def sortedMembers (members : List (String × Json)) : List (String × Json) :=
  let distinct := members.foldr (fun m ms => if ms.any (·.1 == m.1) then ms else m :: ms) []
  distinct.mergeSort fun a b => decide (a.1 ≤ b.1)

/-- A natural number below 256 is asked for. -/
def asByte (v : Json) : Except Mismatch Nat :=
  match Found.ofJson v with
  | .integer n =>
    if 0 ≤ n ∧ n < 256 then .ok n.toNat else .error (.value (.integer n) "u8")
  | found => .error (.type found "u8")

/-- The name of a value of a setting is asked for. -/
def asNamed (α : Type) [Choice α] (name : String) : Except Mismatch α :=
  match Choice.variants.find? fun a => Choice.name (α := α) a == name with
  | some a => .ok a
  | none => .error (.unknown name ((Choice.variants : List α).map Choice.name))

/-- A value of a setting is asked for. -/
def asChoice (α : Type) [Choice α] : Json → Except Mismatch α
  | .str name => asNamed α name
  | .obj members =>
    match sortedMembers members with
    | [(name, v)] => do
      let a ← asNamed α name
      match v with
      | .null => return a
      | v => throw (.type (.ofJson v) "unit")
    | _ => .error (.value .map "map with a single key")
  | v => .error (.type (.ofJson v) "string or map")

end Json

namespace Config

/-- Change the setting with a name. -/
def setMember (c : Config) (name : String) (v : Json) : Except Mismatch Config :=
  match name with
  | "log_level" => do return { c with logLevel := ← v.asByte }
  | "log_format" => do return { c with logFormat := ← v.asChoice LogFormat }
  | "log_output" => do return { c with logOutput := ← v.asChoice LogOutput }
  | "color" => do return { c with color := ← v.asChoice ColorIntent }
  | "output" => do return { c with output := ← v.asChoice OutputFormat }
  | _ => .ok c

/-- The names of the settings in order. -/
def memberNames : List String := ["log_level", "log_format", "log_output", "color", "output"]

/-- **The configuration in a JSON document.** -/
def ofJson : Json → Except Mismatch Config
  | .obj members => (Json.sortedMembers members).foldlM (fun c (k, v) => c.setMember k v) {}
  | .arr items => do
    let c ← (memberNames.zip items).foldlM (fun c (k, v) => c.setMember k v) {}
    if memberNames.length < items.length then
      throw (.length items.length "fewer elements in array")
    return c
  | v => .error (.type (.ofJson v) "struct AppConfig")

end Config

end Lifecycle
