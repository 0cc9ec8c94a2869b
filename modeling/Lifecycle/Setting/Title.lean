import Lifecycle.Setting.Basic

/-!
# Names made from titles

The values of four settings stand in documents under names that are made from their titles by a rule
(`Titled.documentName`): all letters small, or small words joined by dashes. Neither the names of a
`Choice` nor its aliases have a part in this.
-/

namespace Lifecycle

/-- The title of a colour intent. -/
def ColorIntent.title : ColorIntent → String
  | auto => "Auto"
  | always => "Always"
  | never => "Never"

/-- The title of an output format. -/
def OutputFormat.title : OutputFormat → String
  | text => "Text"
  | json => "Json"

/-- How a name is made from a title. -/
inductive NameRule where
  /-- All letters are small. -/
  | lowercase
  /-- All letters are small, and a dash stands before each that was a capital, but not at the start. -/
  | kebab
  deriving Repr, DecidableEq

/-- The name that a rule makes from a title. -/
def NameRule.apply (rule : NameRule) (title : String) : String :=
  match rule with
  | lowercase => String.ofList (title.toList.map Char.toLower)
  | kebab => String.ofList <| title.toList.zipIdx.flatMap fun (c, i) =>
      if 0 < i && c.isUpper then ['-', c.toLower] else [c.toLower]

/-- A type of settings whose values stand in documents under names made from their titles. -/
class Titled (α : Type) where
  title : α → String
  rule : NameRule

/-- The name of a value in documents. -/
def Titled.documentName {α : Type} [Titled α] (a : α) : String := (rule α).apply (title a)

instance : Titled LogOutput := ⟨LogOutput.title, .lowercase⟩

instance : Titled LogFormat := ⟨LogFormat.title, .lowercase⟩

instance : Titled ColorIntent := ⟨ColorIntent.title, .kebab⟩

instance : Titled OutputFormat := ⟨OutputFormat.title, .lowercase⟩

end Lifecycle
