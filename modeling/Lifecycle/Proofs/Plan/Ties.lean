import Lifecycle.Proofs.Plan.Startup
import Mathlib

/-!
# The order of declarations affects ties only

What a manifest says of a name does not depend on the order of its declarations: whether it is declared,
what it requires, and so its depth. A role and the order of requirements do, unless the name is declared
once (`declarations_of_perm`).

* `Plan.AgreeByName`: two plans say the same of every name, but for roles and the order of requirements.
* `Plan.DifferInTies`: one plan is the other one with components of equal order exchanged.
* **`plan_perm`**: the plans of a manifest with its declarations in two orders agree by name, and differ in
  ties only if no name is declared twice.
-/

namespace Lifecycle

/-! ## What two plans have in common -/

namespace Plan

/-- Two plans say the same of every name, but for its role and the order in which it requires others. -/
structure AgreeByName (p p' : Plan) : Prop where
  /-- The same names are planned. -/
  names : (p'.startup.map (·.name)).Perm (p.startup.map (·.name))
  order : ∀ c ∈ p.startup, ∀ c' ∈ p'.startup, c'.name = c.name → c'.order = c.order
  external : ∀ c ∈ p.startup, ∀ c' ∈ p'.startup, c'.name = c.name → c'.external = c.external
  requires : ∀ c ∈ p.startup, ∀ c' ∈ p'.startup, c'.name = c.name →
    ∀ name, name ∈ c'.requires ↔ name ∈ c.requires

/-- Two plans differ at most in the places of components of equal order. -/
structure DifferInTies (p p' : Plan) : Prop where
  /-- The same is said of a name, its role and the order in which it requires others included. -/
  component : ∀ c ∈ p.startup, ∀ c' ∈ p'.startup, c'.name = c.name → c' = c
  /-- Components of the same orders stand in the same places. -/
  orders : p'.startup.map (·.order) = p.startup.map (·.order)
  /-- The components of one order are the same ones. -/
  ties : ∀ k, (p'.startup.filter (·.order == k)).Perm (p.startup.filter (·.order == k))

end Plan

namespace Manifest

variable {m m' : Manifest}

/-! ## What a manifest says whatever the order of its declarations -/

theorem requires_of_perm (h : m'.components.Perm m.components) : m'.Requires = m.Requires := by
  funext name other
  simp only [Requires, h.mem_iff]

theorem declares_of_perm (h : m'.components.Perm m.components) (name : String) :
    m'.declares name = m.declares name := by
  rw [Bool.eq_iff_iff, declares_iff, declares_iff]
  simp only [h.mem_iff]

theorem names_perm (h : m'.components.Perm m.components) : m'.names.Perm m.names := by
  rw [List.perm_ext_iff_of_nodup m'.nodup_names m.nodup_names]
  intro name
  rw [mem_names, mem_names]
  simp only [h.mem_iff]

/-- A name that is declared once has the same declaration in any order of the manifest. -/
theorem declarations_of_perm (h : m'.components.Perm m.components)
    (honce : (m.components.map (·.name)).Nodup) (name : String) :
    m'.declarations name = m.declarations name := by
  have hperm : (m'.declarations name).Perm (m.declarations name) := h.filter _
  have hlength : (m.declarations name).length ≤ 1 := by
    -- the declarations of a name are as many as its occurrences among the declared names
    rw [declarations, ← List.countP_eq_length_filter]
    have hcount : (m.components.map (·.name)).count name = m.components.countP (·.name == name) :=
      List.countP_map
    rw [← hcount]
    exact List.nodup_iff_count_le_one.mp honce name
  cases hdecl : m.declarations name with
  | nil =>
    rw [hdecl] at hperm
    exact hperm.eq_nil
  | cons c cs =>
    rw [hdecl] at hperm hlength
    obtain rfl : cs = [] := List.eq_nil_of_length_eq_zero (by simpa using hlength)
    exact List.perm_singleton.mp hperm

theorem component_of_perm (h : m'.components.Perm m.components)
    (honce : (m.components.map (·.name)).Nodup) (order : Nat) (name : String) :
    m'.component order name = m.component order name := by
  rw [component, component, roleOf, roleOf, requirementsOf, requirementsOf,
    declarations_of_perm h honce, declares_of_perm h]

/-! ## Names sorted by depth -/

variable {f : String → Nat}

theorem stableSort_names_perm (h : m'.components.Perm m.components) (f : String → Nat) :
    (stableSort f m'.names).Perm (stableSort f m.names) :=
  ((stableSort_perm f m'.names).trans (names_perm h)).trans (stableSort_perm f m.names).symm

/-- A component that is planned is that of its name. -/
theorem eq_component_of_mem {c : PlannedComponent} (h : c ∈ (m.planBy f).startup) :
    c = m.component (f c.name) c.name := by
  obtain ⟨name, -, rfl⟩ := List.mem_map.mp h
  rfl

theorem agreeByName_planBy (h : m'.components.Perm m.components) (f : String → Nat) :
    (m.planBy f).AgreeByName (m'.planBy f) where
  names := by
    rw [map_name_planBy, map_name_planBy]
    exact stableSort_names_perm h f
  order := fun c hc c' hc' hname => by
    rw [eq_component_of_mem hc, eq_component_of_mem hc', hname]
    rfl
  external := fun c hc c' hc' hname => by
    rw [eq_component_of_mem hc, eq_component_of_mem hc', hname, component, component,
      declares_of_perm h]
  requires := fun c hc c' hc' hname name => by
    rw [eq_component_of_mem hc, eq_component_of_mem hc', hname, component, component,
      mem_requirementsOf, mem_requirementsOf, requires_of_perm h]

theorem differInTies_planBy (h : m'.components.Perm m.components)
    (honce : (m.components.map (·.name)).Nodup) (f : String → Nat) :
    (m.planBy f).DifferInTies (m'.planBy f) where
  component := fun c hc c' hc' hname => by
    rw [eq_component_of_mem hc, eq_component_of_mem hc', hname, component_of_perm h honce]
  orders := by
    have horders : ∀ n : Manifest,
        (n.planBy f).startup.map (·.order) = (stableSort f n.names).map f := fun n => by
      rw [planBy, List.map_map]
      rfl
    rw [horders, horders]
    -- two sorted lists of the same numbers are the same list
    refine ((stableSort_names_perm h f).map f).eq_of_pairwise (fun a b _ _ => Nat.le_antisymm) ?_ ?_
    · exact List.pairwise_map.mpr pairwise_stableSort
    · exact List.pairwise_map.mpr pairwise_stableSort
  ties := fun k => by
    rw [planBy, planBy, funext fun name => component_of_perm h honce (f name) name]
    exact ((stableSort_names_perm h f).map _).filter _

/-! ## Plans -/

/-- **A manifest that can be planned is planned by the same depths in any order of its declarations.** -/
theorem exists_planBy_of_perm (h : m'.components.Perm m.components) {p : Plan}
    (hp : m.plan = .ok p) : ∃ f, p = m.planBy f ∧ m'.plan = .ok (m'.planBy f) := by
  rcases m.plan_cases with ⟨c, -, hplan⟩ | ⟨f, hf, hplan⟩
  · rw [hplan] at hp
    cases hp
  · rw [hplan] at hp
    refine ⟨f, (Except.ok.inj hp).symm, plan_of_hasDepth fun name hname => ?_⟩
    rw [HasDepth, requires_of_perm h]
    exact hf name ((names_perm h).mem_iff.mp hname)

/-- **The order of declarations affects ties only.** If the declarations of a manifest are put in another
order it can be planned iff it could before. The two plans have the same names, and for each name the same
order, the same requirements and the same flag; only a role and the order of requirements may differ. If no
name is declared twice nothing differs but the places of components of equal order. -/
theorem plan_perm (h : m'.components.Perm m.components) :
    ((∃ p, m.plan = .ok p) ↔ ∃ p', m'.plan = .ok p') ∧
    ∀ p p', m.plan = .ok p → m'.plan = .ok p' →
      p.AgreeByName p' ∧ ((m.components.map (·.name)).Nodup → p.DifferInTies p') := by
  refine ⟨⟨?_, ?_⟩, fun p p' hp hp' => ?_⟩
  · rintro ⟨p, hp⟩
    obtain ⟨f, -, hplan⟩ := exists_planBy_of_perm h hp
    exact ⟨_, hplan⟩
  · rintro ⟨p', hp'⟩
    obtain ⟨f, -, hplan⟩ := exists_planBy_of_perm h.symm hp'
    exact ⟨_, hplan⟩
  · obtain ⟨f, rfl, hplan⟩ := exists_planBy_of_perm h hp
    obtain rfl : m'.planBy f = p' := Except.ok.inj (hplan.symm.trans hp')
    exact ⟨agreeByName_planBy h f, fun honce => differInTies_planBy h honce f⟩

/-- Three declarations, the last of which is required by the first. -/
def trio : Manifest :=
  ⟨[{ name := "api", requires := ["db", "mail"] }, { name := "log" },
    { name := "db", role := some "store" }]⟩

/-- The trio and the trio backwards: the three components of order 0 come in another order. -/
theorem trio_backwards : ∃ p p',
    trio.plan = .ok p ∧ (Manifest.mk trio.components.reverse).plan = .ok p' ∧
    p.startup.map (·.name) = ["db", "mail", "log", "api"] ∧
    p'.startup.map (·.name) = ["db", "log", "mail", "api"] ∧
    p.AgreeByName p' ∧ p.DifferInTies p' := by
  have hperm : (Manifest.mk trio.components.reverse).components.Perm trio.components :=
    List.reverse_perm trio.components
  obtain ⟨-, hagree⟩ := plan_perm hperm
  have hp : trio.plan = .ok ⟨[⟨"db", 0, some "store", [], false⟩, ⟨"mail", 0, none, [], true⟩,
      ⟨"log", 0, none, [], false⟩, ⟨"api", 1, none, ["db", "mail"], false⟩]⟩ := by cbv
  have hp' : (Manifest.mk trio.components.reverse).plan = .ok ⟨[⟨"db", 0, some "store", [], false⟩,
      ⟨"log", 0, none, [], false⟩, ⟨"mail", 0, none, [], true⟩,
      ⟨"api", 1, none, ["db", "mail"], false⟩]⟩ := by cbv
  obtain ⟨hname, hties⟩ := hagree _ _ hp hp'
  exact ⟨_, _, hp, hp', rfl, rfl, hname, hties (by decide)⟩

end Manifest

end Lifecycle
