import Lifecycle.Environment.Basic
import Lifecycle.Setting.Basic

/-!
# Colours by the environment

Four variables say what a user wants of colours in any program: `NO_COLOR`, `FORCE_COLOR`, `CLICOLOR`
and `CI`. `ColorVariables.ofEnvironment` takes them out of an environment, whatever the case of their
names, and fails if one is there in two spellings. Letters outside of ASCII have no part in this,
since none of them is another case of a letter of these names.
-/

namespace Lifecycle

/-- The variables that say what a user wants of colours. -/
structure ColorVariables where
  noColor : Option String := none
  forceColor : Option String := none
  clicolor : Option String := none
  ci : Option String := none
  deriving Repr, DecidableEq, Inhabited

/-- One of the variables in two spellings. -/
structure DuplicateVariable where
  name : String
  deriving Repr, DecidableEq

/-- The text of the report. -/
def DuplicateVariable.message (d : DuplicateVariable) : String :=
  s!"duplicate field `{d.name}`"

namespace ColorVariables

/-- Take note of a variable that may be one of these. -/
def note (c : ColorVariables) (name value : String) : Except DuplicateVariable ColorVariables :=
  match String.ofList (name.toList.map Char.toLower) with
  | "no_color" =>
    if c.noColor.isSome then .error ⟨"no_color"⟩ else .ok { c with noColor := some value }
  | "force_color" =>
    if c.forceColor.isSome then .error ⟨"force_color"⟩ else .ok { c with forceColor := some value }
  | "clicolor" =>
    if c.clicolor.isSome then .error ⟨"clicolor"⟩ else .ok { c with clicolor := some value }
  | "ci" => if c.ci.isSome then .error ⟨"ci"⟩ else .ok { c with ci := some value }
  | _ => .ok c

/-- **The colour variables of an environment.** -/
def ofEnvironment (env : Environment) : Except DuplicateVariable ColorVariables :=
  env.bindings.foldlM (fun c (name, value) => c.note name value) {}

/-- What the variables make of an intent. In continuous integration nothing is coloured; otherwise
`FORCE_COLOR` counts most, then `NO_COLOR`, then `CLICOLOR`. -/
def apply (c : ColorVariables) (intent : ColorIntent) : ColorIntent :=
  if c.ci.isSome then .never
  else
    let intent := if c.clicolor = some "0" then .never else intent
    let intent := if c.noColor.any (!·.isEmpty) then .never else intent
    match c.forceColor with
    | some "0" | some "false" => .never
    | some "1" | some "2" | some "3" | some "true" => .always
    | _ => intent

end ColorVariables

end Lifecycle
