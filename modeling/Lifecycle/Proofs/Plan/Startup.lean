import Lifecycle.Plan.Events
import Lifecycle.Proofs.Order.Sorting
import Lifecycle.Proofs.Plan.Chain
import Mathlib

/-!
# A plan starts every component after what it requires

* **`plan_cases`**: a plan is the names of its manifest, stably sorted by depth, each with what the
  manifest says of it. Planning fails for a cycle only.
* `Manifest.Planned` says of a plan what a container relies on: which components start, when, and that
  they stop the other way around. **`planned_planBy`**: names sorted by depth are such a plan.
* **`plan_respects_requirements`** puts it together.
-/

namespace Lifecycle

namespace Manifest

variable {m : Manifest}

/-- The component of a name in a plan, from the declarations of the name. -/
def component (m : Manifest) (order : Nat) (name : String) : PlannedComponent :=
  { name := name, order := order, role := m.roleOf name, requires := m.requirementsOf name
    external := !m.declares name }

/-- The names of a manifest, sorted by a number, as a plan. -/
def planBy (m : Manifest) (f : String → Nat) : Plan :=
  ⟨(stableSort f m.names).map fun name => m.component (f name) name⟩

/-! ## The plan as a sorted list of names -/

/-- What a graph says about a vertex once depths are committed. -/
theorem planned?_foldl_setOrder {g : ComponentGraph} (h : g.DescribesManifest m) {f : Nat → Nat}
    {v : Nat} (hv : v < g.size) :
    ComponentGraph.planned? (g.ids.foldl (fun g v => g.setOrder v (f v)) g) v
      = some (m.component (f v) (g.label v)) := by
  have honly : g.OnlyOrders (· ∈ g.ids) (g.ids.foldl (fun g v => g.setOrder v (f v)) g) :=
    (Graph.OnlyOrders.refl g _).foldl_setOrder fun _ hv => hv
  have hlabels : (g.ids.foldl (fun g v => g.setOrder v (f v)) g).dependencyLabels v
      = m.requirementsOf (g.label v) := by
    rw [Graph.dependencyLabels, honly.dependencies, funext honly.label,
      ← h.requires v (g.label v) (h.getElem?_label hv)]
    rfl
  rw [ComponentGraph.planned?, hlabels, Graph.vertex?_foldl_setOrder,
    if_pos (Graph.mem_ids.mpr hv), h.vertex?_eq, h.getElem?_label hv]
  rfl

/-- A number of each vertex is a number of each name: that of the vertex which has it. -/
theorem exists_label_eq {g : ComponentGraph} (h : g.DescribesManifest m) (f : Nat → Nat) :
    ∃ depth : String → Nat, ∀ v ∈ g.ids, depth (g.label v) = f v := by
  refine ⟨fun name => f (m.names.idxOf name), fun v hv => ?_⟩
  dsimp only
  rw [h.idxOf_label (Graph.mem_ids.mp hv)]

/-- All vertices sorted by depth read as all names sorted by depth. -/
theorem filterMap_planned? {g : ComponentGraph} (h : g.DescribesManifest m) {f : Nat → Nat}
    {depth : String → Nat} (hdepth : ∀ v ∈ g.ids, depth (g.label v) = f v) :
    (stableSort f g.ids).filterMap
        (ComponentGraph.planned? (g.ids.foldl (fun g v => g.setOrder v (f v)) g))
      = (m.planBy depth).startup := by
  have hsorted : (stableSort f g.ids).map g.label = stableSort depth m.names := by
    rw [← h.map_label_ids]
    exact List.map_mergeSort fun v hv w hw => by rw [hdepth v hv, hdepth w hw]
  rw [planBy, ← hsorted, List.map_map, ← List.filterMap_eq_map]
  refine List.filterMap_congr fun v hv => ?_
  have hmem : v ∈ g.ids := mem_stableSort.mp hv
  rw [planned?_foldl_setOrder h (Graph.mem_ids.mp hmem), Function.comp, Function.comp, hdepth v hmem]

/-- **All that planning can do.** -/
theorem plan_cases (m : Manifest) :
    (∃ c, m.IsCycle c.path ∧ m.plan = .error (.cycle c)) ∨
    (∃ f : String → Nat, (∀ name ∈ m.names, m.HasDepth name (f name)) ∧
      m.plan = .ok (m.planBy f)) := by
  have h := m.describes_graph
  rcases m.graph.topologicalOrder_cases with ⟨c, hc, horder⟩ | ⟨f, hf, horder⟩
  · obtain ⟨g', r, hcall⟩ : ∃ g' r, m.graph.topologicalOrder = (g', r) := ⟨_, _, rfl⟩
    rw [hcall] at horder
    obtain rfl : r = .error (.cycle c) := horder
    exact Or.inl ⟨c, ComponentGraph.isCycle_path h hc, by simp only [plan, m.buildGraph_eq, hcall]⟩
  · obtain ⟨depth, hdepth⟩ := exists_label_eq h f
    refine Or.inr ⟨depth, fun name hname => ?_, ?_⟩
    · rw [← h.map_label_ids] at hname
      obtain ⟨v, hv, rfl⟩ := List.mem_map.mp hname
      rw [hdepth v hv]
      exact ComponentGraph.hasDepth_label h (Graph.mem_ids.mp hv) (hf v hv)
    · rw [plan, m.buildGraph_eq]
      simp only [horder]
      rw [filterMap_planned? h hdepth]

/-- **A manifest in which every name has a depth is planned by these depths.** -/
theorem plan_of_hasDepth {f : String → Nat} (hf : ∀ name ∈ m.names, m.HasDepth name (f name)) :
    m.plan = .ok (m.planBy f) := by
  rcases m.plan_cases with ⟨c, hc, -⟩ | ⟨f', hf', hplan⟩
  · exact absurd (acyclic_of_hasDepth hf) hc.not_acyclic
  · have hsame : ∀ name ∈ m.names, f' name = f name := fun name hname =>
      (hf' name hname).unique (hf name hname)
    rw [hplan, planBy, planBy, stableSort_congr hsame]
    congr 2
    exact List.map_congr_left fun name hname => by rw [hsame name (mem_stableSort.mp hname)]

/-! ## What a plan is good for -/

/-- A plan of a manifest that a container can rely on. -/
structure Planned (m : Manifest) (p : Plan) : Prop where
  /-- Every name that is declared or required is planned, once. -/
  names : (p.startup.map (·.name)).Nodup ∧ ∀ name, name ∈ p.startup.map (·.name) ↔
    ∃ c ∈ m.components, name = c.name ∨ name ∈ c.requires
  /-- A planned component has the depth of its name, and what the declarations of the name say. -/
  component : ∀ c ∈ p.startup, m.HasDepth c.name c.order ∧ c = m.component c.order c.name
  /-- What a component requires starts earlier and has a smaller order. -/
  startup : ∀ (j : Nat) (c : PlannedComponent), p.startup[j]? = some c → ∀ name ∈ c.requires,
    ∃ (i : Nat) (d : PlannedComponent), i < j ∧ p.startup[i]? = some d ∧ d.name = name ∧
      d.order < c.order
  /-- The components are sorted by their orders, and by first mention where these are equal. -/
  sorted : p.startup.Pairwise fun c d =>
    c.order < d.order ∨ c.order = d.order ∧ m.names.idxOf c.name < m.names.idxOf d.name
  /-- The components stop the other way around: each before what it requires. -/
  shutdown : p.shutdown = p.startup.reverse ∧
    ∀ (i : Nat) (c : PlannedComponent), p.shutdown[i]? = some c → ∀ name ∈ c.requires,
      ∃ (j : Nat) (d : PlannedComponent), i < j ∧ p.shutdown[j]? = some d ∧ d.name = name

theorem map_name_planBy (m : Manifest) (f : String → Nat) :
    (m.planBy f).startup.map (·.name) = stableSort f m.names := by
  rw [planBy, List.map_map]
  exact List.map_id _

theorem getElem?_planBy {f : String → Nat} {i : Nat} {c : PlannedComponent} :
    (m.planBy f).startup[i]? = some c ↔
      ∃ name, (stableSort f m.names)[i]? = some name ∧ m.component (f name) name = c := by
  rw [planBy, List.getElem?_map, Option.map_eq_some_iff]

/-- In a list of names that is sorted by depth, what a name requires stands earlier. -/
theorem startup_planBy {f : String → Nat} (hf : ∀ name ∈ m.names, m.HasDepth name (f name))
    (j : Nat) (c : PlannedComponent) (hj : (m.planBy f).startup[j]? = some c) (name : String)
    (hname : name ∈ c.requires) :
    ∃ (i : Nat) (d : PlannedComponent),
      i < j ∧ (m.planBy f).startup[i]? = some d ∧ d.name = name ∧ d.order < c.order := by
  obtain ⟨own, hown, rfl⟩ := getElem?_planBy.mp hj
  have hrequires : m.Requires own name := mem_requirementsOf.mp hname
  obtain ⟨howned, hmem⟩ := hrequires.mem_names
  have hlt : f name < f own := (hf own howned).lt (hf name hmem) hrequires
  obtain ⟨i, hi⟩ := List.mem_iff_getElem?.mp (mem_stableSort.mpr hmem)
  exact ⟨i, m.component (f name) name, lt_of_key_lt hi hown hlt, getElem?_planBy.mpr ⟨name, hi, rfl⟩,
    rfl, hlt⟩

/-- A position counted from the start of a sequence is one counted from the end of its reverse. -/
theorem getElem?_shutdown {p : Plan} {i : Nat} {c : PlannedComponent}
    (h : p.shutdown[i]? = some c) :
    i < p.startup.length ∧ p.startup[p.startup.length - 1 - i]? = some c := by
  obtain ⟨hlt, -⟩ := List.getElem?_eq_some_iff.mp h
  rw [Plan.shutdown, List.length_reverse] at hlt
  rw [Plan.shutdown, List.getElem?_reverse hlt] at h
  exact ⟨hlt, h⟩

/-- If each component starts after what it requires, it stops before. -/
theorem stops_before_required {p : Plan}
    (h : ∀ (j : Nat) (c : PlannedComponent), p.startup[j]? = some c → ∀ name ∈ c.requires,
      ∃ (i : Nat) (d : PlannedComponent), i < j ∧ p.startup[i]? = some d ∧ d.name = name ∧
        d.order < c.order)
    (i : Nat) (c : PlannedComponent) (hi : p.shutdown[i]? = some c) (name : String)
    (hname : name ∈ c.requires) :
    ∃ (j : Nat) (d : PlannedComponent), i < j ∧ p.shutdown[j]? = some d ∧ d.name = name := by
  obtain ⟨hlt, hstart⟩ := getElem?_shutdown hi
  obtain ⟨k, d, hk, hd, hdname, -⟩ := h _ c hstart name hname
  refine ⟨p.startup.length - 1 - k, d, by omega, ?_, hdname⟩
  rw [Plan.shutdown, List.getElem?_reverse (by omega)]
  have hback : p.startup.length - 1 - (p.startup.length - 1 - k) = k := by omega
  rw [hback, hd]

/-- **Names sorted by depth are a plan.** -/
theorem planned_planBy {f : String → Nat} (hf : ∀ name ∈ m.names, m.HasDepth name (f name)) :
    m.Planned (m.planBy f) where
  names := by
    rw [map_name_planBy]
    refine ⟨(stableSort_perm f m.names).nodup_iff.mpr m.nodup_names, fun name => ?_⟩
    rw [mem_stableSort]
    exact mem_names
  component := fun c hc => by
    obtain ⟨name, hname, rfl⟩ := List.mem_map.mp hc
    exact ⟨hf name (mem_stableSort.mp hname), rfl⟩
  startup := startup_planBy hf
  sorted := by
    rw [planBy, List.pairwise_map]
    exact pairwise_stableSort_lex m.pairwise_idxOf_names
  shutdown := ⟨rfl, stops_before_required (startup_planBy hf)⟩

/-- A plan of a manifest is one that a container can rely on. -/
theorem planned_of_plan {p : Plan} (h : m.plan = .ok p) : m.Planned p := by
  rcases m.plan_cases with ⟨c, -, hplan⟩ | ⟨f, hf, hplan⟩
  · rw [h] at hplan
    cases hplan
  · obtain rfl := Except.ok.inj (h.symm.trans hplan)
    exact planned_planBy hf

/-- **Planning a manifest.** It succeeds iff no name requires itself, directly or not. Otherwise it
reports a cycle of declared names, and never fails for another reason. A plan that it gives is one that
a container can rely on. -/
theorem plan_respects_requirements (m : Manifest) :
    ((∃ p, m.plan = .ok p) ↔ m.Acyclic) ∧
    (∀ e, m.plan = .error e → ∃ c, e = .cycle c ∧ (PlanError.graph e).cyclePath? = some c.path ∧
      m.IsCycle c.path ∧ ∀ name ∈ c.path, m.declares name = true) ∧
    (∀ p, m.plan = .ok p → m.Planned p) := by
  rcases m.plan_cases with ⟨c, hc, hplan⟩ | ⟨f, hf, hplan⟩
  · rw [hplan]
    refine ⟨⟨fun ⟨p, hp⟩ => ?_, fun hacyclic => absurd hacyclic hc.not_acyclic⟩, ?_, ?_⟩
    · cases hp
    · intro e he
      obtain rfl := Except.error.inj he
      exact ⟨c, rfl, rfl, hc, fun name => hc.declares⟩
    · intro p hp
      cases hp
  · rw [hplan]
    refine ⟨⟨fun _ => acyclic_of_hasDepth hf, fun _ => ⟨_, rfl⟩⟩, ?_, ?_⟩
    · intro e he
      cases he
    · intro p hp
      obtain rfl := Except.ok.inj hp
      exact planned_planBy hf

/-- Two declarations, the second of which requires itself. -/
def knot : Manifest :=
  ⟨[{ name := "a", requires := ["b"] }, { name := "b", requires := ["x", "b"] }]⟩

/-- The shop is planned, and the knot is not. -/
theorem shop_planned :
    (∃ p, shop.plan = .ok p ∧ shop.Acyclic ∧ shop.Planned p ∧
      p.startup.map (fun c => (c.name, c.order))
        = [("cache", 0), ("disk", 0), ("db", 1), ("web", 2)]) ∧
    ∃ c, knot.plan = .error (.cycle c) ∧ c.path = ["b", "b"] ∧ knot.IsCycle c.path ∧
      ¬ knot.Acyclic := by
  obtain ⟨hok, -, hplanned⟩ := plan_respects_requirements shop
  have hshop : shop.plan = .ok ⟨[⟨"cache", 0, none, [], false⟩, ⟨"disk", 0, none, [], true⟩,
      ⟨"db", 1, some "store", ["disk"], false⟩,
      ⟨"web", 2, some "front", ["db", "cache", "disk"], false⟩]⟩ := by cbv
  obtain ⟨-, hcycle, -⟩ := plan_respects_requirements knot
  have hknot : knot.plan = .error (.cycle ⟨["b", "b"], [1, 1]⟩) := by cbv
  obtain ⟨c, hc, -, hcyclic, -⟩ := hcycle _ hknot
  obtain rfl := GraphError.cycle.inj hc
  exact ⟨⟨_, hshop, hok.mp ⟨_, hshop⟩, hplanned _ hshop, rfl⟩,
    ⟨_, hknot, rfl, hcyclic, hcyclic.not_acyclic⟩⟩

end Manifest

end Lifecycle
