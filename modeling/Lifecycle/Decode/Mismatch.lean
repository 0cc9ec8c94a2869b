import Lifecycle.Text.Quoted
import Lifecycle.Decimal.Shortest

/-!
# Documents of the wrong shape

A document that can be read may still not have the shape that is asked for. `Mismatch` says how it
differs, `Found` what stood in the place, and `Mismatch.message` words it; the wording is the same for
every format of documents.
-/

namespace Lifecycle

/-- What stands in a place of a document. -/
inductive Found where
  | null
  | boolean (b : Bool)
  | integer (n : Int)
  /-- An integer beyond 64 bits. -/
  | wide (n : Int)
  | float (text : String)
  | string (s : String)
  | sequence
  | map
  deriving Repr, DecidableEq

/-- How a report names it. -/
def Found.describe : Found → String
  | null => "null"
  | boolean b => s!"boolean `{b}`"
  | integer n => s!"integer `{n}`"
  | wide n => s!"integer `{n}` as " ++ if n < Int.pow 2 127 then "i128" else "u128"
  | float text => s!"floating point `{text}`"
  | string s => "string " ++ Text.quoted s
  | sequence => "sequence"
  | map => "map"

/-- How a document differs from the shape that is asked for. -/
inductive Mismatch where
  | type (found : Found) (expected : String)
  | value (found : Found) (expected : String)
  | length (length : Nat) (expected : String)
  | missing (field : String)
  | unknown (name : String) (expected : List String)
  /-- An integer out of range. -/
  | integerOverflow
  /-- A number with a fraction out of range. -/
  | floatOverflow
  deriving Repr, DecidableEq

namespace Mismatch

/-- A name as a report marks it. -/
def marked (name : String) : String := s!"`{name}`"

/-- The names that were expected. -/
def expectation : List String → String
  | [] => "there are no variants"
  | [a] => "expected " ++ marked a
  | [a, b] => "expected " ++ marked a ++ " or " ++ marked b
  | names => "expected one of " ++ ", ".intercalate (names.map marked)

/-- The text of the report. -/
def message : Mismatch → String
  | type found expected => s!"invalid type: {found.describe}, expected {expected}"
  | value found expected => s!"invalid value: {found.describe}, expected {expected}"
  | length n expected => s!"invalid length {n}, expected {expected}"
  | missing field => "missing field " ++ marked field
  | unknown name expected => "unknown variant " ++ marked name ++ ", " ++ expectation expected
  | integerOverflow => "integer number overflowed"
  | floatOverflow => "floating-point number overflowed"

end Mismatch

end Lifecycle
