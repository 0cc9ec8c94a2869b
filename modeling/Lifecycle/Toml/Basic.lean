import Lifecycle.Decimal.Basic

/-!
# TOML documents

A `Toml.Value` is a value of a TOML document. A table remembers how it came about (`Origin`), because
that decides which later lines may add to it:

* a table with a header of its own is closed to a second header;
* a table that is only part of the path of a header may still get its own, or get dotted keys;
* a table with a dotted key may get more of them, but no header;
* an inline table is complete.

The document is built line by line: `Entries.declareTable` and `Entries.declareElement` do what a
header says, and `Entries.assign` what a key and value say. Each is `none` on what a document must not
do, such as naming one key twice.
-/

namespace Lifecycle.Toml

/-- How a table came about. -/
inductive Origin where
  | header
  | implied
  | dotted
  | inlined
  deriving Repr, DecidableEq

/-- A number that may have a fraction. -/
inductive Real where
  | finite (d : Decimal)
  | infinite (negative : Bool)
  | notANumber
  deriving Repr, DecidableEq

/-- A value of a document. -/
inductive Value where
  | string (s : String)
  | integer (n : Int)
  /-- An integer of which nothing can be made. -/
  | illegible
  | float (x : Real)
  | boolean (b : Bool)
  /-- A date, a time or both, which nothing here looks into. -/
  | dateTime
  | array (items : List Value)
  | table (origin : Origin) (entries : List (String × Value))
  /-- The tables under one header in double brackets, newest first. -/
  | tables (newestFirst : List (List (String × Value)))
  deriving Repr, Inhabited

/-- The keys of a table with their values, in alphabetical order. -/
abbrev Entries := List (String × Value)

namespace Entries

/-- The value of a key. -/
def get? (es : Entries) (key : String) : Option Value := List.lookup key es

/-- Replace the value of a key, which may be absent. A new key takes its place in the order. -/
def alter (key : String) (f : Option Value → Option Value) : Entries → Option Entries
  | [] => (f none).map fun v => [(key, v)]
  | (k, v) :: es =>
    if k = key then (f (some v)).map fun w => (k, w) :: es
    else if key < k then (f none).map fun w => (key, w) :: (k, v) :: es
    else (alter key f es).map ((k, v) :: ·)

/-- Change the table that the path of a header leads to. Tables on the way that are absent are
implied, and of the tables under a header in double brackets the newest is meant. -/
def within : List String → (Entries → Option Entries) → Entries → Option Entries
  | [], f, es => f es
  | key :: path, f, es => es.alter key fun
    | none => (within path f []).map (.table .implied)
    | some (.table .inlined _) => none
    | some (.table origin inner) => (within path f inner).map (.table origin)
    | some (.tables (newest :: older)) =>
      (within path f newest).map fun newest => .tables (newest :: older)
    | some _ => none

/-- The header of a table. -/
def declareTable (path : List String) (key : String) (es : Entries) : Option Entries :=
  es.within path fun inner => inner.alter key fun
    | none => some (.table .header [])
    | some (.table .implied entries) => some (.table .header entries)
    | some _ => none

/-- A header in double brackets, which starts a new table under it. -/
def declareElement (path : List String) (key : String) (es : Entries) : Option Entries :=
  es.within path fun inner => inner.alter key fun
    | none => some (.tables [[]])
    | some (.tables ts) => some (.tables ([] :: ts))
    | some _ => none

/-- Give a key its value. A dotted key makes the tables on its path, or adds to those that an earlier
dotted key made; an implied table it takes over. -/
def assign : List String → String → Value → Entries → Option Entries
  | [], key, v, es => es.alter key fun
    | none => some v
    | some _ => none
  | step :: path, key, v, es => es.alter step fun
    | none => (assign path key v []).map (.table .dotted)
    | some (.table .dotted inner) => (assign path key v inner).map (.table .dotted)
    | some (.table .implied inner) => (assign path key v inner).map (.table .dotted)
    | some (.tables (newest :: older)) =>
      if path.isEmpty then none
      else (assign path key v newest).map fun newest => .tables (newest :: older)
    | some _ => none

end Entries

/-- A key: the path to the table it is in, and its last part. -/
structure Key where
  path : List String
  last : String
  deriving Repr, DecidableEq

/-- All parts of a key. -/
def Key.parts (k : Key) : List String := k.path ++ [k.last]

/-- What a line of a document says. -/
inductive Line where
  | header (key : Key)
  | element (key : Key)
  | assignment (key : Key) (value : Value)
  deriving Repr

/-- A document while it is built: its entries and the path of the last header. -/
structure Draft where
  entries : Entries := []
  current : List String := []

/-- Do what a line says. -/
def Draft.add? (d : Draft) : Line → Option Draft
  | .header k => (d.entries.declareTable k.path k.last).map fun es => ⟨es, k.parts⟩
  | .element k => (d.entries.declareElement k.path k.last).map fun es => ⟨es, k.parts⟩
  | .assignment k v =>
    (d.entries.within d.current (Entries.assign k.path k.last v)).map fun es => ⟨es, d.current⟩

/-- **The entries of a document** with these lines. -/
def ofLines? (lines : List Line) : Option Entries :=
  (lines.foldlM Draft.add? {}).map Draft.entries

end Lifecycle.Toml
