import Lifecycle.Json.Printer
import Lifecycle.Json.Reader
import Lifecycle.Manifest.Basic

/-!
# Manifests in JSON

`Manifest.toJson` makes a JSON document of a manifest, and `Manifest.ofJson?` takes the manifest out of
such a document: an object whose member `component` is an array of components, each an object with a
`name`, perhaps a `role` and perhaps an array `requires`. A role that is absent is left out of the
document, and requirements that are left out are none. Other members are ignored. The fields of an
object may also stand in an array, where those at the end may be absent.
-/

namespace Lifecycle

namespace Component

/-- A component as a member of a JSON document. -/
def toJson (c : Component) : Json :=
  .obj ([("name", .str c.name)] ++ (c.role.map fun r => ("role", Json.str r)).toList
    ++ [("requires", .strs c.requires)])

/-- The role in a member of a JSON document, where null stands for none. -/
def roleOfJson? : Json → Option (Option String)
  | .null => some none
  | v => v.str?.map some

/-- The component with some fields, of which all but the name may be absent. -/
def ofFields? (name role requires : Option Json) : Option Component := do
  return {
    name := ← (← name).str?
    role := ← (role.map roleOfJson?).getD (some none)
    requires := ← (requires.map Json.strs?).getD (some []) }

/-- The component in a member of a JSON document. -/
def ofJson? : Json → Option Component
  | .obj members => do
    ofFields? (← Json.field? members "name") (← Json.field? members "role")
      (← Json.field? members "requires")
  | .arr items => if items.length ≤ 3 then ofFields? items[0]? items[1]? items[2]? else none
  | _ => none

end Component

namespace Manifest

/-- A manifest as a JSON document. -/
def toJson (m : Manifest) : Json := .obj [("component", .arr (m.components.map Component.toJson))]

/-- The manifest with some components, which may be absent. -/
def ofComponents? : Option Json → Option Manifest
  | none => some {}
  | some v => do return { components := ← (← v.items?).mapM Component.ofJson? }

/-- **The manifest in a JSON document.** -/
def ofJson? : Json → Option Manifest
  | .obj members => do ofComponents? (← Json.field? members "component")
  | .arr items => if items.length ≤ 1 then ofComponents? items[0]? else none
  | _ => none

/-- The manifest in the text of a JSON document. -/
def ofJsonText? (text : String) : Option Manifest := do ofJson? (← Json.parse? text)

end Manifest

end Lifecycle
