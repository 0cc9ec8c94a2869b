import Lifecycle.Log.Event
import Lifecycle.Manifest.Basic
import Lifecycle.Toml.Basic
import Lifecycle.Toml.Reader

/-!
# Loading manifests

`Manifest.parse` reads a manifest from TOML text and `Manifest.load` from a file. Both check it.

`Manifest.ofToml` takes the components out of a TOML document: the tables under `component`, each with
a `name`, perhaps a `role` and perhaps a list `requires`. A component may also be written as an array
of these three, of which the last two may be absent. Other keys are ignored, but no number under them
may be out of range.

The first difference is reported. The keys of a table are looked at in alphabetical order, and one
that is absent is missed after all that are present.
-/

namespace Lifecycle

namespace Toml

/-- What a value is to a report. A number out of range is none of the things that it may be: 128 bits
are enough for an integer, and 64 for a number with a fraction. -/
def Value.found : Value → Except Mismatch Found
  | .string s => .ok (.string s)
  | .integer n =>
    if -Int.pow 2 63 ≤ n ∧ n < Int.pow 2 64 then .ok (.integer n)
    else if -Int.pow 2 127 ≤ n ∧ n < Int.pow 2 128 then .ok (.wide n)
    else .error .integerOverflow
  | .illegible => .error .integerOverflow
  | .float (.finite d) =>
    if (Binary64.ofDecimal? d).isSome then .ok (.float (d.text .plain)) else .error .floatOverflow
  | .float (.infinite negative) => .ok (.float (if negative then "-inf" else "inf"))
  | .float .notANumber => .ok (.float "NaN")
  | .boolean b => .ok (.boolean b)
  | .dateTime => .ok .map
  | .array _ => .ok .sequence
  | .table _ _ => .ok .map
  | .tables _ => .ok .sequence

mutual

/-- Look at a value that is not asked for: no number in it may be out of range. -/
def Value.ignore : Value → Except Mismatch Unit
  | .array items => ignoreItems items
  | .table _ entries => ignoreEntries entries
  | .tables newestFirst => ignoreTables newestFirst
  | v => v.found.map fun _ => ()

/-- Look at the items of an array in order. -/
def ignoreItems : List Value → Except Mismatch Unit
  | [] => .ok ()
  | v :: vs => do
    v.ignore
    ignoreItems vs

/-- Look at the entries of a table in order. -/
def ignoreEntries : List (String × Value) → Except Mismatch Unit
  | [] => .ok ()
  | (_, v) :: es => do
    v.ignore
    ignoreEntries es

/-- Look at the tables under a header in double brackets, the oldest first. -/
def ignoreTables : List (List (String × Value)) → Except Mismatch Unit
  | [] => .ok ()
  | newest :: older => do
    ignoreTables older
    ignoreEntries newest

end

end Toml

/-- A value where something else is expected. -/
def Mismatch.ofToml (expected : String) (v : Toml.Value) : Mismatch :=
  match v.found with
  | .ok found => .type found expected
  | .error outOfRange => outOfRange

namespace Toml.Value

/-- The items of an array, or the tables under a header in double brackets. -/
def items? : Value → Option (List Value)
  | .array items => some items
  | .tables newestFirst => some (newestFirst.reverse.map (.table .header))
  | _ => none

/-- A string is asked for. -/
def asString : Value → Except Mismatch String
  | .string s => .ok s
  | v => .error (.ofToml "a string" v)

/-- A sequence is asked for. -/
def asItems (v : Value) : Except Mismatch (List Value) :=
  match v.items? with
  | some items => .ok items
  | none => .error (.ofToml "a sequence" v)

/-- A sequence of strings is asked for. -/
def asStrings (v : Value) : Except Mismatch (List String) := do
  (← v.asItems).mapM asString

end Toml.Value

namespace Component

/-- What is known of a component while its table is looked at. -/
structure Draft where
  name : Option String := none
  role : Option String := none
  requires : List String := []

/-- Look at an entry of the table of a component. -/
def Draft.note (d : Draft) (key : String) (v : Toml.Value) : Except Mismatch Draft :=
  match key with
  | "name" => do return { d with name := ← v.asString }
  | "requires" => do return { d with requires := ← v.asStrings }
  | "role" => do return { d with role := ← v.asString }
  | _ => do
    v.ignore
    return d

/-- A component from the entries of a table. -/
def ofEntries (es : Toml.Entries) : Except Mismatch Component := do
  let d ← es.foldlM (fun d (key, v) => Draft.note d key v) {}
  match d.name with
  | none => throw (.missing "name")
  | some name => return { name, role := d.role, requires := d.requires }

/-- A component from the items of an array: its name, its role and its requirements. -/
def ofItems : List Toml.Value → Except Mismatch Component
  | [] => .error (.length 0 "struct ComponentSpec with 3 elements")
  | [name] => do return { name := ← name.asString }
  | [name, role] => do return { name := ← name.asString, role := ← role.asString }
  | name :: role :: requires :: _ => do
    return { name := ← name.asString, role := ← role.asString, requires := ← requires.asStrings }

/-- A component is asked for. -/
def ofToml (v : Toml.Value) : Except Mismatch Component :=
  match v with
  | .table _ entries => ofEntries entries
  | .dateTime => .error (.missing "name")
  | v =>
    match v.items? with
    | some items => ofItems items
    | none => .error (.ofToml "struct ComponentSpec" v)

end Component

/-- Look at an entry of a document: the components are under one key. -/
def Manifest.note (m : Manifest) (key : String) (v : Toml.Value) : Except Mismatch Manifest :=
  match key with
  | "component" => do return { m with components := ← (← v.asItems).mapM Component.ofToml }
  | _ => do
    v.ignore
    return m

/-- **The components of a document.** -/
def Manifest.ofToml (es : Toml.Entries) : Except Mismatch Manifest :=
  es.foldlM (fun m (key, v) => Manifest.note m key v) {}

namespace Manifest

/-- **Read a manifest** from text. The path only stands in reports. -/
def parse (text path : String) : Except ManifestError Manifest :=
  match Toml.parse? text with
  | none => .error (.malformed path)
  | some entries =>
    match ofToml entries with
    | .error detail => .error (.misshapen path detail)
    | .ok m => do
      m.validate path
      return m

/-- Read a manifest file. -/
def load (read : FileReader) (path : String) : Except ManifestError Manifest :=
  match read.readText path with
  | .error cause => .error (.unreadable path cause)
  | .ok text => parse text path

/-- The event of a manifest that was read. -/
def parsedEvent (path : String) (m : Manifest) : Event :=
  ⟨.trace, .manifest, s!"Parsed {m.size} components from {path}", []⟩

/-- The events of reading a manifest with this result. -/
def parseEvents (path : String) : Except ManifestError Manifest → List Event
  | .ok m => [parsedEvent path m]
  | .error _ => []

/-- The events of reading a manifest file with this result. -/
def loadEvents (path : String) (result : Except ManifestError Manifest) : List Event :=
  ⟨.debug, .manifest, "Loading component manifest: " ++ path, []⟩ :: parseEvents path result

end Manifest

end Lifecycle
