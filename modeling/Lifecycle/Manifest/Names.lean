import Lifecycle.Manifest.Basic

/-!
# The names in a manifest

What the declarations of a manifest say about a name, all declarations of that name taken together:
whether it is declared (`Manifest.declares`), its role (`Manifest.roleOf`) and what it requires
(`Manifest.requirementsOf`). `Manifest.names` lists every name once, in the order of first mention.
-/

namespace Lifecycle

namespace Component

/-- The names that a declaration mentions: its own, then those it requires. -/
def mentions (c : Component) : List String := c.name :: c.requires

/-- A declaration with its names changed. The role is no name. -/
def rename (f : String → String) (c : Component) : Component :=
  { c with name := f c.name, requires := c.requires.map f }

end Component

namespace Manifest

/-- Every name that is declared or required, in the order of first mention. -/
def names (m : Manifest) : List String := (m.components.flatMap Component.mentions).eraseDups

/-- The declarations of a name. -/
def declarations (m : Manifest) (name : String) : List Component :=
  m.components.filter (·.name == name)

/-- Whether a name is declared. -/
def declares (m : Manifest) (name : String) : Bool := m.components.any (·.name == name)

/-- The role of a name: the first that one of its declarations gives. -/
def roleOf (m : Manifest) (name : String) : Option String :=
  (m.declarations name).findSome? Component.role

/-- What a name requires, by all its declarations. -/
def requirementsOf (m : Manifest) (name : String) : List String :=
  ((m.declarations name).flatMap Component.requires).eraseDups

/-- Some declaration of a name requires another one. -/
def Requires (m : Manifest) (name other : String) : Prop :=
  ∃ c ∈ m.components, c.name = name ∧ other ∈ c.requires

/-- A manifest with its names changed. -/
def rename (f : String → String) (m : Manifest) : Manifest := ⟨m.components.map (·.rename f)⟩

theorem mem_requirementsOf {m : Manifest} {name other : String} :
    other ∈ m.requirementsOf name ↔ m.Requires name other := by
  simp only [requirementsOf, declarations, Requires, List.mem_eraseDups, List.mem_flatMap,
    List.mem_filter, beq_iff_eq]
  constructor
  · rintro ⟨c, ⟨hc, hn⟩, ho⟩; exact ⟨c, hc, hn, ho⟩
  · rintro ⟨c, hc, hn, ho⟩; exact ⟨c, ⟨hc, hn⟩, ho⟩

end Manifest

end Lifecycle
