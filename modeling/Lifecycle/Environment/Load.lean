import Lifecycle.Environment.Assignment
import Lifecycle.Environment.Basic
import Lifecycle.Environment.Lines
import Lifecycle.Log.Event

/-!
# Loading environment files

`Environment.loadFile` sets the variables that a file assigns, in the order of its lines. **A variable
that is set stays as it is**, so of two assignments the first counts, and the environment of the process
counts before any file. A variable in a value has the value that it has by then.

Loading stops at the first fault; what was set before stays set. A file that does not exist is no fault.
-/

namespace Lifecycle

namespace EnvironmentFile

/-- What lines assign up to the first fault, and the fault if there is one. -/
def assignments (env : Environment) :
    List (Except Fault (List Char)) → List (String × String) × Except Fault Unit
  | [] => ([], .ok ())
  | .error fault :: _ => ([], .error fault)
  | .ok line :: rest =>
    match readAssignment env.valueOf line with
    | .error e => ([], .error (.line e.text e.index))
    | .ok none => assignments env rest
    | .ok (some (name, value)) =>
      if value.contains '\x00' && !env.contains name then ([], .error (.nul name))
      else
        let (after, result) := assignments (env.setIfUnset name value) rest
        ((name, value) :: after, result)

/-- What a file assigns up to the first fault, and the fault if there is one. A file that does not exist
assigns nothing. -/
def assignmentsIn (read : FileReader) (env : Environment) (path : String) :
    List (String × String) × Except Fault Unit :=
  match read path with
  | .error .notFound => ([], .ok ())
  | .error cause => ([], .error (.unreadable cause))
  | .ok bytes => assignments env (lines bytes)

end EnvironmentFile

/-- A file that could not be loaded. -/
structure EnvironmentFileError where
  file : String
  fault : EnvironmentFile.Fault
  deriving Repr, DecidableEq

/-- The text of the report. -/
def EnvironmentFileError.message (e : EnvironmentFileError) : String :=
  s!"Failed to load environment file '{e.file}': {e.fault.message}"

namespace Environment

/-- **Load an environment file.** -/
def loadFile (read : FileReader) (env : Environment) (path : String) :
    Environment × Except EnvironmentFileError Unit :=
  let (assignments, result) := EnvironmentFile.assignmentsIn read env path
  (env.setEachUnset assignments, result.mapError fun fault => ⟨path, fault⟩)

/-- The events of loading an environment file. -/
def loadFileEvents (read : FileReader) (env : Environment) (path : String) : List Event :=
  match read path, (loadFile read env path).2 with
  | .ok _, .ok () => [⟨.trace, .loader, "Loaded environment file " ++ path, []⟩]
  | _, _ => []

/-- Load files up to the first that fails. -/
def loadEach (read : FileReader) : Environment → List String →
    Environment × Except EnvironmentFileError Unit
  | env, [] => (env, .ok ())
  | env, path :: paths =>
    match env.loadFile read path with
    | (env, .error e) => (env, .error e)
    | (env, .ok ()) => loadEach read env paths

/-- The events of loading files. -/
def loadEachEvents (read : FileReader) : Environment → List String → List Event
  | _, [] => []
  | env, path :: paths =>
    env.loadFileEvents read path ++
      match env.loadFile read path with
      | (_, .error _) => []
      | (env, .ok ()) => loadEachEvents read env paths

/-- The files that a run loads, the more important first. -/
def standardFiles : List String := [".env.local", ".env"]

end Environment

end Lifecycle
