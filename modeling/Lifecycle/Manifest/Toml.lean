import Lifecycle.Manifest.Basic

/-!
# Writing manifests in TOML

`Manifest.toToml` writes a manifest in its canonical form: for each component in order a header in double
brackets, the name, the role if there is one, and the list of what it requires, each on one line. Strings
are basic strings, in which only the quote, the backslash and the control characters below U+0080 are
escaped: the first two by a backslash, the others by their code point in four hexadecimal digits.
-/

namespace Lifecycle

namespace Toml

/-- A character as it stands in a basic string. -/
def escapeChar (c : Char) : List Char :=
  if c = '"' ∨ c = '\\' then ['\\', c]
  else if c.toNat < 0x20 ∨ c.toNat = 0x7F then
    ['\\', 'u', '0', '0', Nat.digitChar (c.toNat / 16), Nat.digitChar (c.toNat % 16)]
  else [c]

/-- A string in quotes. -/
def quote (s : String) : String := String.ofList ('"' :: s.toList.flatMap escapeChar ++ ['"'])

/-- A list of strings. -/
def quoteEach (ss : List String) : String := "[" ++ ", ".intercalate (ss.map quote) ++ "]"

/-- The line of a header in double brackets. -/
def elementLine (key : String) : String := "[[" ++ key ++ "]]\n"

/-- The line of a key and its value. -/
def assignmentLine (key value : String) : String := key ++ " = " ++ value ++ "\n"

end Toml

/-- The lines of a component. -/
def Component.toToml (c : Component) : String :=
  Toml.elementLine "component" ++ Toml.assignmentLine "name" (Toml.quote c.name)
    ++ (c.role.map fun r => Toml.assignmentLine "role" (Toml.quote r)).getD ""
    ++ Toml.assignmentLine "requires" (Toml.quoteEach c.requires)

/-- **The text of a manifest** in its canonical form. -/
def Manifest.toToml (m : Manifest) : String := String.join (m.components.map Component.toToml)

end Lifecycle
