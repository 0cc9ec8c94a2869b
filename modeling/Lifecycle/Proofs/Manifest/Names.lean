import Lifecycle.Manifest.Names
import Lifecycle.Plan.Graph
import Lifecycle.Proofs.Graph.Build
import Mathlib

/-!
# What one more line of a manifest changes

A manifest grows by a declaration without requirements, or by a requirement of its last declaration.
The names in it (`names_snoc_bare`, `names_snoc_requiring`), what is known of a name
(`standingOf_snoc`) and what a name requires (`requirementsOf_snoc_bare`,
`requirementsOf_snoc_requiring`) grow accordingly.

A name that is not mentioned is not declared, and so nothing is known of it (`declares_of_not_mem`).
-/

namespace Lifecycle.Manifest

/-- A manifest with one more declaration. -/
def snoc (m : Manifest) (c : Component) : Manifest := ⟨m.components ++ [c]⟩

/-- What the declarations of a manifest say about a name, apart from requirements. -/
def standingOf (m : Manifest) (name : String) : Standing :=
  { role := m.roleOf name, external := !m.declares name }

/-! ## Names -/

/-- The names in a manifest are those that its declarations mention. -/
theorem mem_names {m : Manifest} {name : String} :
    name ∈ m.names ↔ ∃ c ∈ m.components, name = c.name ∨ name ∈ c.requires := by
  simp only [names, List.mem_eraseDups, List.mem_flatMap, Component.mentions, List.mem_cons]

theorem nodup_names (m : Manifest) : m.names.Nodup := nodup_eraseDups _

/-- Names stand in the order of first mention. -/
theorem pairwise_idxOf_names (m : Manifest) :
    m.names.Pairwise fun a b => m.names.idxOf a < m.names.idxOf b := by
  rw [List.pairwise_iff_getElem]
  intro i j hi hj hij
  rw [m.nodup_names.idxOf_getElem i hi, m.nodup_names.idxOf_getElem j hj]
  exact hij

/-- A declaration without requirements mentions its own name. -/
theorem names_snoc_bare (m : Manifest) (name : String) (role : Option String) :
    (m.snoc ⟨name, role, []⟩).names = addNew m.names name := by
  have hmentions : (m.snoc ⟨name, role, []⟩).components.flatMap Component.mentions
      = m.components.flatMap Component.mentions ++ [name] := by
    rw [snoc, List.flatMap_append]
    rfl
  rw [names, hmentions, eraseDups_concat]
  rfl

/-- One more requirement mentions one more name. -/
theorem names_snoc_requiring (m : Manifest) (name : String) (role : Option String)
    (required : List String) (other : String) :
    (m.snoc ⟨name, role, required ++ [other]⟩).names
      = addNew (m.snoc ⟨name, role, required⟩).names other := by
  have hmentions : (m.snoc ⟨name, role, required ++ [other]⟩).components.flatMap Component.mentions
      = (m.snoc ⟨name, role, required⟩).components.flatMap Component.mentions ++ [other] := by
    rw [snoc, snoc, List.flatMap_append, List.flatMap_append]
    simp [Component.mentions]
  rw [names, hmentions, eraseDups_concat]
  rfl

/-! ## Standings -/

theorem declares_iff {m : Manifest} {name : String} :
    m.declares name = true ↔ ∃ c ∈ m.components, c.name = name := by
  simp only [declares, List.any_eq_true, beq_iff_eq]

theorem declarations_eq_nil_iff {m : Manifest} {name : String} :
    m.declarations name = [] ↔ m.declares name = false := by
  rw [declarations, List.filter_eq_nil_iff, declares, List.any_eq_false]

/-- A name that is not mentioned is not declared. -/
theorem declares_of_not_mem {m : Manifest} {name : String} (h : name ∉ m.names) :
    m.declares name = false := by
  rw [Bool.eq_false_iff, ne_eq, declares_iff]
  rintro ⟨c, hc, rfl⟩
  exact h (mem_names.mpr ⟨c, hc, Or.inl rfl⟩)

/-- Nothing is known of a name that is not declared but that it is external. -/
theorem standingOf_of_not_declares {m : Manifest} {name : String} (h : m.declares name = false) :
    m.standingOf name = { external := true } := by
  rw [standingOf, roleOf, declarations_eq_nil_iff.mpr h, h]
  rfl

theorem requirementsOf_of_not_declares {m : Manifest} {name : String}
    (h : m.declares name = false) : m.requirementsOf name = [] := by
  rw [requirementsOf, declarations_eq_nil_iff.mpr h]
  rfl

theorem mem_components_snoc (m : Manifest) (c : Component) : c ∈ (m.snoc c).components :=
  List.mem_append_right _ (List.mem_singleton_self c)

theorem declarations_snoc (m : Manifest) (c : Component) (name : String) :
    (m.snoc c).declarations name
      = m.declarations name ++ if c.name = name then [c] else [] := by
  rw [declarations, snoc, List.filter_append, declarations]
  by_cases hname : c.name = name
  · simp [hname]
  · simp [hname]

theorem declares_snoc (m : Manifest) (c : Component) (name : String) :
    (m.snoc c).declares name = (m.declares name || c.name == name) := by
  rw [declares, snoc, List.any_append, List.any_cons, List.any_nil, Bool.or_false]
  rfl

theorem roleOf_snoc (m : Manifest) (c : Component) (name : String) :
    (m.snoc c).roleOf name = (m.roleOf name).or (if c.name = name then c.role else none) := by
  rw [roleOf, declarations_snoc, List.findSome?_append, roleOf]
  by_cases hname : c.name = name
  · rw [if_pos hname, if_pos hname, List.findSome?_singleton]
  · rw [if_neg hname, if_neg hname, List.findSome?_nil]

/-- A declaration adds to what is known of its name: it counts as declared, and a role that was missing
is taken from the declaration. -/
theorem standingOf_snoc (m : Manifest) (c : Component) :
    (m.snoc c).standingOf
      = Function.update m.standingOf c.name ((m.standingOf c.name).declare c.role) := by
  funext name
  rw [standingOf, roleOf_snoc, declares_snoc]
  by_cases hname : name = c.name
  · subst hname
    rw [Function.update_self, if_pos rfl, beq_self_eq_true, Bool.or_true, standingOf,
      Standing.declare]
    cases m.roleOf c.name <;> rfl
  · have hother : (c.name == name) = false := beq_eq_false_iff_ne.mpr (Ne.symm hname)
    rw [Function.update_of_ne hname, if_neg (Ne.symm hname), hother, Bool.or_false, Option.or_none,
      standingOf]

/-! ## Requirements -/

/-- A declaration without requirements requires nothing. -/
theorem requirementsOf_snoc_bare (m : Manifest) (name : String) (role : Option String) :
    (m.snoc ⟨name, role, []⟩).requirementsOf = m.requirementsOf := by
  funext x
  rw [requirementsOf, declarations_snoc, List.flatMap_append, requirementsOf]
  split
  · rw [List.flatMap_singleton, List.append_nil]
  · rw [List.flatMap_nil, List.append_nil]

/-- One more requirement counts for the name that is declared. -/
theorem requirementsOf_snoc_requiring (m : Manifest) (name : String) (role : Option String)
    (required : List String) (other : String) :
    (m.snoc ⟨name, role, required ++ [other]⟩).requirementsOf
      = Function.update (m.snoc ⟨name, role, required⟩).requirementsOf name
          (addNew ((m.snoc ⟨name, role, required⟩).requirementsOf name) other) := by
  funext x
  rw [requirementsOf, declarations_snoc, List.flatMap_append]
  by_cases hname : x = name
  · subst hname
    rw [Function.update_self, requirementsOf, declarations_snoc, List.flatMap_append, if_pos rfl,
      if_pos rfl, List.flatMap_singleton, List.flatMap_singleton, ← List.append_assoc,
      eraseDups_concat]
  · rw [Function.update_of_ne hname, requirementsOf, declarations_snoc, List.flatMap_append,
      if_neg (Ne.symm hname), if_neg (Ne.symm hname)]

end Lifecycle.Manifest
