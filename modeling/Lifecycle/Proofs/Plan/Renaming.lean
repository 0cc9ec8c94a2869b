import Lifecycle.Proofs.Order.Relabel
import Lifecycle.Proofs.Plan.Startup
import Mathlib

/-!
# Planning does not look at how names are spelt

Names are told apart and copied, and nothing else: if those of a manifest are changed so that different
ones stay different, everything that is built from it is the same but for the names.

* `ComponentGraph.Renamed`: a graph is another one with its labels changed, and the change keeps these
  labels apart. Every step of building a graph keeps it (`Renamed.require`, `Renamed.declare`,
  `Renamed.add`).
* **`graph_rename`**: so the graph of a renamed manifest is the renamed graph.
* **`plan_rename`**: and its plan the renamed plan, or its failure the same cycle under the new names.
-/

namespace Lifecycle

/-- A planned component with its names changed. -/
def PlannedComponent.rename (f : String → String) (c : PlannedComponent) : PlannedComponent :=
  { c with name := f c.name, requires := c.requires.map f }

/-- A plan with its names changed: the same components in the same places. -/
def Plan.rename (f : String → String) (p : Plan) : Plan := ⟨p.startup.map (·.rename f)⟩

namespace ComponentGraph

variable {f : String → String} {S : Set String} {g g' : ComponentGraph}

/-- A graph is another one with its labels changed by a function that keeps the names in `S` apart, all
labels being such names. -/
structure Renamed (f : String → String) (S : Set String) (g g' : ComponentGraph) : Prop where
  eq : g' = g.relabel f
  mem : ∀ x ∈ g.vertices.toList, x.label ∈ S

namespace Renamed

theorem empty : Renamed f S Graph.empty Graph.empty where
  eq := Graph.ext_vertex? (fun v => by rw [Graph.vertex?_relabel]; rfl) rfl
  mem := fun _ hx => absurd hx List.not_mem_nil

/-- A name is interned as before, and gets the same handle. -/
theorem intern (hf : Set.InjOn f S) (h : Renamed f S g g') {name : String} (hname : name ∈ S)
    (s : Standing) : Renamed f S (intern g name s).1 (intern g' (f name) s).1 ∧
      (ComponentGraph.intern g' (f name) s).2 = (ComponentGraph.intern g name s).2 := by
  obtain ⟨rfl, hmem⟩ := h
  have hfind : (g.relabel f).find? (f name) = g.find? name :=
    Graph.find?_relabel fun x hx heq => hf (hmem x hx) hname heq
  unfold ComponentGraph.intern
  rw [hfind]
  cases g.find? name with
  | some v => exact ⟨⟨rfl, hmem⟩, rfl⟩
  | none =>
    refine ⟨⟨Graph.addVertex_relabel g name s, fun x hx => ?_⟩, Graph.size_relabel g f⟩
    rw [Graph.addVertex, Array.toList_push, List.mem_append, List.mem_singleton] at hx
    rcases hx with hx | rfl
    · exact hmem x hx
    · exact hname

theorem link (h : Renamed f S g g') (a b : Nat) : Renamed f S (g.link a b) (g'.link a b) where
  eq := by rw [h.eq, Graph.link_relabel]
  mem := by
    rw [Graph.vertices_link]
    exact h.mem

theorem modifyPayload (h : Renamed f S g g') (v : Nat) (change : Standing → Standing) :
    Renamed f S (g.modifyPayload v change) (g'.modifyPayload v change) where
  eq := by
    rw [h.eq]
    exact Graph.modifyVertex_relabel (fun _ => rfl) v
  mem := fun x hx => by
    obtain ⟨u, hu⟩ := List.mem_iff_getElem?.mp hx
    rw [Array.getElem?_toList, Graph.modifyPayload, Graph.modifyVertex, Array.getElem?_modify] at hu
    split at hu
    · obtain ⟨y, hy, rfl⟩ := Option.map_eq_some_iff.mp hu
      exact h.mem y (Array.mem_toList_iff.mpr (Array.mem_of_getElem? hy))
    · exact h.mem x (Array.mem_toList_iff.mpr (Array.mem_of_getElem? hu))

theorem require (hf : Set.InjOn f S) (h : Renamed f S g g') {name : String} (hname : name ∈ S)
    (v : Nat) : Renamed f S (require v g name) (require v g' (f name)) := by
  obtain ⟨hgraph, hhandle⟩ := h.intern hf hname { external := true }
  show Renamed f S
    ((ComponentGraph.intern g name { external := true }).1.link v
      (ComponentGraph.intern g name { external := true }).2)
    ((ComponentGraph.intern g' (f name) { external := true }).1.link v
      (ComponentGraph.intern g' (f name) { external := true }).2)
  rw [hhandle]
  exact hgraph.link v _

theorem foldl_require (hf : Set.InjOn f S) (v : Nat) :
    ∀ {names : List String} {g g' : ComponentGraph}, Renamed f S g g' → (∀ n ∈ names, n ∈ S) →
      Renamed f S (names.foldl (ComponentGraph.require v) g)
        ((names.map f).foldl (ComponentGraph.require v) g')
  | [], _, _, h, _ => h
  | n :: ns, _, _, h, hmem => by
    have hnext := h.require hf (hmem n List.mem_cons_self) v
    rw [List.map_cons, List.foldl_cons, List.foldl_cons]
    exact foldl_require hf v hnext fun n' hn' => hmem n' (List.mem_cons_of_mem n hn')

theorem declare (hf : Set.InjOn f S) (h : Renamed f S g g') {c : Component} (hname : c.name ∈ S) :
    Renamed f S (declare g c).1 (declare g' (c.rename f)).1 ∧
      (ComponentGraph.declare g' (c.rename f)).2 = (ComponentGraph.declare g c).2 := by
  obtain ⟨hgraph, hhandle⟩ := h.intern hf hname {}
  unfold ComponentGraph.declare Component.rename
  dsimp only
  rw [hhandle]
  exact ⟨hgraph.modifyPayload _ _, rfl⟩

/-- **A declaration under other names** does to a graph under other labels what it did before. -/
theorem add (hf : Set.InjOn f S) (h : Renamed f S g g') {c : Component}
    (hmem : ∀ n ∈ c.mentions, n ∈ S) : Renamed f S (add g c) (add g' (c.rename f)) := by
  obtain ⟨hgraph, hhandle⟩ := h.declare hf (hmem c.name List.mem_cons_self)
  unfold ComponentGraph.add
  dsimp only
  rw [hhandle]
  exact hgraph.foldl_require hf _ fun n hn => hmem n (List.mem_cons_of_mem c.name hn)

theorem foldl_add (hf : Set.InjOn f S) :
    ∀ {cs : List Component} {g g' : ComponentGraph}, Renamed f S g g' →
      (∀ c ∈ cs, ∀ n ∈ c.mentions, n ∈ S) →
      Renamed f S (cs.foldl ComponentGraph.add g)
        ((cs.map (·.rename f)).foldl ComponentGraph.add g')
  | [], _, _, h, _ => h
  | c :: cs, _, _, h, hmem => by
    have hnext := h.add hf (hmem c List.mem_cons_self)
    rw [List.map_cons, List.foldl_cons, List.foldl_cons]
    exact foldl_add hf hnext fun c' hc' => hmem c' (List.mem_cons_of_mem c hc')

end Renamed

/-- What a graph says about a vertex, under other labels. -/
theorem planned?_relabel (g : ComponentGraph) (f : String → String) (v : Nat) :
    planned? (g.relabel f) v = (planned? g v).map (·.rename f) := by
  have hlabels : (g.relabel f).dependencyLabels v = (g.dependencyLabels v).map f := by
    rw [Graph.dependencyLabels, Graph.dependencyLabels, Graph.dependencies_relabel, List.map_map]
    exact List.map_congr_left fun d hd => Graph.label_relabel (Graph.dependency_lt hd)
  rw [planned?, planned?, Graph.vertex?_relabel, Option.map_map, Option.map_map, hlabels]
  rfl

end ComponentGraph

namespace Manifest

variable {m : Manifest} {f : String → String}

/-- **The graph of a renamed manifest is the renamed graph.** -/
theorem graph_rename (hf : Set.InjOn f {name | name ∈ m.names}) :
    (m.rename f).graph = m.graph.relabel f := by
  have hmem : ∀ c ∈ m.components, ∀ n ∈ c.mentions, n ∈ {name | name ∈ m.names} := fun c hc n hn =>
    List.mem_eraseDups.mpr (List.mem_flatMap.mpr ⟨c, hc, hn⟩)
  have hrenamed := ComponentGraph.Renamed.empty.foldl_add hf hmem
  exact hrenamed.eq

/-- A renamed manifest is planned as the manifest is, under other names. -/
theorem plan_rename_eq (hf : Set.InjOn f {name | name ∈ m.names}) :
    (m.rename f).plan = (m.plan.map (·.rename f)).mapError (·.relabel f) := by
  rw [plan, plan, buildGraph_eq, buildGraph_eq, graph_rename hf]
  dsimp only
  rw [Graph.topologicalOrder_relabel]
  obtain ⟨g', r, horder⟩ : ∃ g' r, m.graph.topologicalOrder = (g', r) := ⟨_, _, rfl⟩
  rw [horder]
  cases r with
  | error e => rfl
  | ok vs =>
    have hplanned : vs.filterMap (ComponentGraph.planned? (g'.relabel f))
        = (vs.filterMap (ComponentGraph.planned? g')).map (·.rename f) := by
      rw [List.map_filterMap, funext (ComponentGraph.planned?_relabel g' f)]
    show Except.ok (Plan.mk (vs.filterMap (ComponentGraph.planned? (g'.relabel f)))) = _
    rw [hplanned]
    rfl

/-- **Planning does not look at how names are spelt.** If the names of a manifest are changed so that
different ones stay different, its plan is the same plan under the new names: the same components in the
same places, with the same orders, roles and flags. If it has no plan it fails for a cycle, and then for
the same cycle with the new names. Its graph is the same graph with the new names for labels. -/
theorem plan_rename (hf : Set.InjOn f {name | name ∈ m.names}) :
    (∀ p, m.plan = .ok p → (m.rename f).plan = .ok (p.rename f)) ∧
    (∀ e, m.plan = .error e → ∃ c, e = .cycle c ∧
      (m.rename f).plan = .error (.cycle ⟨c.path.map f, c.vertices⟩)) ∧
    ∃ g, m.buildGraph = .ok g ∧ (m.rename f).buildGraph = .ok (g.relabel f) := by
  refine ⟨fun p hp => ?_, fun e he => ?_, m.graph, m.buildGraph_eq, ?_⟩
  · rw [plan_rename_eq hf, hp]
    rfl
  · rcases m.plan_cases with ⟨c, -, hplan⟩ | ⟨order, -, hplan⟩
    · obtain rfl : e = .cycle c := Except.error.inj (he.symm.trans hplan)
      exact ⟨c, rfl, by rw [plan_rename_eq hf, he]; rfl⟩
    · rw [hplan] at he
      cases he
  · rw [buildGraph_eq, graph_rename hf]

/-- The shop with `web` and `disk` exchanged, so that their alphabetical order is another one, and the
knot with `b` and `c` exchanged. -/
theorem shop_exchanged : ∃ p, shop.plan = .ok p ∧
    (shop.rename (Equiv.swap "web" "disk")).plan = .ok (p.rename (Equiv.swap "web" "disk")) ∧
    (p.rename (Equiv.swap "web" "disk")).startup.map (fun c => (c.name, c.order, c.external))
      = [("cache", 0, false), ("web", 0, true), ("db", 1, false), ("disk", 2, false)] ∧
    (knot.rename (Equiv.swap "b" "c")).plan = .error (.cycle ⟨["c", "c"], [1, 1]⟩) := by
  have hshop : shop.plan = .ok ⟨[⟨"cache", 0, none, [], false⟩, ⟨"disk", 0, none, [], true⟩,
      ⟨"db", 1, some "store", ["disk"], false⟩,
      ⟨"web", 2, some "front", ["db", "cache", "disk"], false⟩]⟩ := by cbv
  have hknot : knot.plan = .error (.cycle ⟨["b", "b"], [1, 1]⟩) := by cbv
  have hapart : Set.InjOn (Equiv.swap "web" "disk") {name | name ∈ shop.names} :=
    (Equiv.swap "web" "disk").injective.injOn
  have hapart' : Set.InjOn (Equiv.swap "b" "c") {name | name ∈ knot.names} :=
    (Equiv.swap "b" "c").injective.injOn
  obtain ⟨hplan, -, -⟩ := plan_rename hapart
  obtain ⟨-, hcycle, -⟩ := plan_rename hapart'
  obtain ⟨c, hc, hrenamed⟩ := hcycle _ hknot
  obtain rfl := GraphError.cycle.inj hc
  exact ⟨_, hshop, hplan _ hshop, by decide, by rw [hrenamed]; decide⟩

end Manifest

end Lifecycle
