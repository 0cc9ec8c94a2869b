import Lifecycle.Decode.Mismatch
import Lifecycle.Files.Basic
import Lifecycle.Text.Classes

/-!
# Manifests

A `Manifest` lists components in the order of their declarations: each with a name, perhaps a role,
and the names of the components it requires. `Manifest.validate` rejects names that are blank.
-/

namespace Lifecycle

/-- A declared component. -/
structure Component where
  name : String
  /-- The service or implementation that the component provides. -/
  role : Option String := none
  /-- The names of the components that must start first. -/
  requires : List String := []
  deriving Repr, DecidableEq, Inhabited

/-- The components that a container manages, in order of declaration. -/
structure Manifest where
  components : List Component := []
  deriving Repr, DecidableEq, Inhabited

/-- Why a manifest cannot be loaded. -/
inductive ManifestError where
  | unreadable (path : String) (cause : ReadError)
  /-- The text is not TOML. -/
  | malformed (path : String)
  /-- The text is TOML, but not of the shape of a manifest. -/
  | misshapen (path : String) (detail : Mismatch)
  | emptyName (path : String) (position : Nat)
  | emptyRequirement (path : String) (component : String)
  deriving Repr, DecidableEq

/-- The text of the report. -/
def ManifestError.message : ManifestError → String
  | unreadable path cause => s!"Failed to read file: {path}: {cause.message}"
  | malformed path => s!"Failed to parse TOML: {path}: invalid document"
  | misshapen path detail => s!"Failed to parse TOML: {path}: {detail.message}"
  | emptyName path position => s!"Component #{position} in {path} has an empty name"
  | emptyRequirement path component => s!"Component {component} in {path} requires an empty name"

namespace Component

/-- Give a component a role, in place of the one it has. -/
def withRole (c : Component) (role : String) : Component := { c with role := some role }

/-- Add requirements after those that a component has. -/
def requiring (c : Component) (names : List String) : Component :=
  { c with requires := c.requires ++ names }

/-- Check one component, the `position`-th of its manifest. -/
def validate (path : String) (position : Nat) (c : Component) : Except ManifestError Unit :=
  if Text.isBlank c.name then .error (.emptyName path position)
  else if c.requires.any Text.isBlank then .error (.emptyRequirement path c.name)
  else .ok ()

end Component

namespace Manifest

/-- How many components are declared. -/
def size (m : Manifest) : Nat := m.components.length

/-- Whether no component is declared. -/
def isEmpty (m : Manifest) : Bool := m.components.isEmpty

/-- Check components in order, the first of which is the `position`-th. -/
def validateFrom (path : String) : Nat → List Component → Except ManifestError Unit
  | _, [] => .ok ()
  | position, c :: cs => do
    c.validate path position
    validateFrom path (position + 1) cs

/-- **Check a manifest**: no component has a blank name or requires one. The first offence is
reported; positions count from 1. -/
def validate (path : String) (m : Manifest) : Except ManifestError Unit :=
  validateFrom path 1 m.components

end Manifest

end Lifecycle
