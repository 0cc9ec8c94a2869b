import Lifecycle.Plan.Basic
import Lifecycle.Proofs.Plan.Merge
import Mathlib

/-!
# Declarations that say nothing new

A graph that describes a manifest is not changed by what the manifest says already: a declared name is
declared again without a role, or after it has one (`declare_eq_self`), or requires a name that it
requires (`require_eq_self`).

* **`add_of_mem`**: so a declaration is added twice for nothing.
* **`add_split`**: the second half of a declaration may follow as a declaration of its own, and
  **`add_repeat`**: a requirement counts where it stands first. Both hold of a graph that describes any
  manifest, and so at any place of a longer one.
* **`redundant_declarations`** puts this together.
-/

namespace Lifecycle

namespace ComponentGraph

variable {g : ComponentGraph} {m : Manifest} {name : String} {role : Option String} {v : Nat}

/-! ## What changes nothing -/

/-- A declared name has nothing to learn from a declaration whose role is not needed. -/
theorem declare_standingOf (hname : m.declares name = true) (hrole : m.roleOf name = none → role = none) :
    (m.standingOf name).declare role = m.standingOf name := by
  rw [Standing.declare, Manifest.standingOf, hname]
  cases h : m.roleOf name with
  | none => rw [hrole h]; rfl
  | some r => rfl

/-- **A name that is declared already is declared for nothing**, if its role is not needed. -/
theorem declare_eq_self (h : DescribesManifest g m) {c : Component} (hv : m.names[v]? = some c.name)
    (hname : m.declares c.name = true) (hrole : m.roleOf c.name = none → c.role = none) :
    declare g c = (g, v) := by
  have hsame : g.modifyPayload v (Standing.declare · c.role) = g := by
    refine Graph.modifyPayload_eq_self fun x hx => ?_
    rw [h.vertex?_eq, hv] at hx
    obtain rfl := Option.some.inj hx
    exact declare_standingOf hname hrole
  simp only [declare, intern, h.find?_of_getElem? hv, hsame]

/-- **A name that is required already is required for nothing.** -/
theorem require_eq_self (h : DescribesManifest g m) (hv : m.names[v]? = some name) {other : String}
    (hother : other ∈ m.requirementsOf name) : require v g other = g := by
  rw [← h.requires v name hv] at hother
  obtain ⟨d, hd, rfl⟩ := List.mem_map.mp hother
  have hfind : g.find? (g.label d) = some d :=
    h.find?_of_getElem? (h.getElem?_label (Graph.dependency_lt hd))
  simp only [require, intern, hfind, Graph.link_of_mem hd]

theorem foldl_require_eq_self (h : DescribesManifest g m) (hv : m.names[v]? = some name) :
    ∀ {others : List String}, others ⊆ m.requirementsOf name → others.foldl (require v) g = g
  | [], _ => rfl
  | other :: others, hothers => by
    rw [List.foldl_cons, require_eq_self h hv (hothers List.mem_cons_self)]
    exact foldl_require_eq_self h hv fun x hx => hothers (List.mem_cons_of_mem other hx)

/-! ## Declarations -/

/-- The requirements of a declaration are recorded in two parts. -/
theorem add_append (g : ComponentGraph) (name : String) (role : Option String) (r₁ r₂ : List String) :
    add g ⟨name, role, r₁ ++ r₂⟩
      = r₂.foldl (require (declare g ⟨name, role, r₁⟩).2) (add g ⟨name, role, r₁⟩) :=
  List.foldl_append

/-- **A declaration of the manifest is added again for nothing.** -/
theorem add_of_mem (h : DescribesManifest g m) {c : Component} (hc : c ∈ m.components) :
    add g c = g := by
  have hname : m.declares c.name = true := Manifest.declares_iff.mpr ⟨c, hc, rfl⟩
  obtain ⟨v, -, hv⟩ := h.find?_of_mem (Manifest.mem_names.mpr ⟨c, hc, Or.inl rfl⟩)
  have hrole : m.roleOf c.name = none → c.role = none := fun hnone =>
    List.findSome?_eq_none_iff.mp hnone c (List.mem_filter.mpr ⟨hc, beq_self_eq_true c.name⟩)
  have hrequires : c.requires ⊆ m.requirementsOf c.name := fun _ hother =>
    Manifest.mem_requirementsOf.mpr ⟨c, hc, rfl, hother⟩
  simp only [add, declare_eq_self h hv hname hrole]
  exact foldl_require_eq_self h hv hrequires

/-- **A declaration may be split in two**, the second of which has no role. -/
theorem add_split (h : DescribesManifest g m) (name : String) (role : Option String)
    (r₁ r₂ : List String) :
    add (add g ⟨name, role, r₁⟩) ⟨name, none, r₂⟩ = add g ⟨name, role, r₁ ++ r₂⟩ := by
  obtain ⟨hfirst, hv⟩ := describes_add h ⟨name, role, r₁⟩
  have hname : (m.snoc ⟨name, role, r₁⟩).declares name = true :=
    Manifest.declares_iff.mpr ⟨_, m.mem_components_snoc _, rfl⟩
  have hdeclare : declare (add g ⟨name, role, r₁⟩) ⟨name, none, r₂⟩
      = (add g ⟨name, role, r₁⟩, (declare g ⟨name, role, r₁⟩).2) :=
    declare_eq_self hfirst hv hname fun _ => rfl
  rw [add_append, add, hdeclare]

/-- **A requirement counts where it stands first** in a declaration. -/
theorem add_repeat (h : DescribesManifest g m) (name : String) (role : Option String)
    {xs : List String} {r : String} (hr : r ∈ xs) (ys : List String) :
    add g ⟨name, role, xs ++ r :: ys⟩ = add g ⟨name, role, xs ++ ys⟩ := by
  obtain ⟨hfirst, hv⟩ := describes_add h ⟨name, role, xs⟩
  have hrequired : r ∈ (m.snoc ⟨name, role, xs⟩).requirementsOf name :=
    Manifest.mem_requirementsOf.mpr ⟨_, m.mem_components_snoc _, rfl, hr⟩
  rw [add_append, add_append, List.foldl_cons, require_eq_self hfirst hv hrequired]

end ComponentGraph

/-! ## Manifests -/

namespace Manifest

variable {m m' : Manifest}

/-- Two manifests are built to the same graph, and planned alike. -/
structure BuiltAlike (m m' : Manifest) : Prop where
  graph : ∃ g, m.buildGraph = .ok g ∧ m'.buildGraph = .ok g
  plan : m'.plan = m.plan

theorem BuiltAlike.of_graph_eq (h : m'.graph = m.graph) : m.BuiltAlike m' where
  graph := ⟨m.graph, m.buildGraph_eq, h ▸ m'.buildGraph_eq⟩
  plan := by rw [Manifest.plan, Manifest.plan, buildGraph_eq, buildGraph_eq, h]

/-- The graph of a manifest is built from the graph of its first declarations. -/
theorem graph_append (before after : List Component) :
    (Manifest.mk (before ++ after)).graph
      = after.foldl ComponentGraph.add (Manifest.mk before).graph :=
  List.foldl_append

theorem foldl_add_of_subset :
    ∀ {cs : List Component}, cs ⊆ m.components → cs.foldl ComponentGraph.add m.graph = m.graph
  | [], _ => rfl
  | c :: cs, h => by
    rw [List.foldl_cons, ComponentGraph.add_of_mem m.describes_graph (h List.mem_cons_self)]
    exact foldl_add_of_subset fun x hx => h (List.mem_cons_of_mem c hx)

/-- **Declarations that say nothing new change nothing.** The graph of a manifest, and with it the plan,
is the same if declarations of the manifest are added once more at its end, in any order and as often
as one likes; if somewhere in it a declaration is split into two adjacent ones, the second without the
role; or if a requirement is dropped from a declaration that has it earlier. -/
theorem redundant_declarations :
    (∀ (m : Manifest) (cs : List Component), cs ⊆ m.components →
      m.BuiltAlike ⟨m.components ++ cs⟩) ∧
    (∀ (before after : List Component) (name : String) (role : Option String)
      (r₁ r₂ : List String),
      BuiltAlike ⟨before ++ ⟨name, role, r₁ ++ r₂⟩ :: after⟩
        ⟨before ++ ⟨name, role, r₁⟩ :: ⟨name, none, r₂⟩ :: after⟩) ∧
    (∀ (before after : List Component) (name : String) (role : Option String)
      (xs : List String) (r : String) (ys : List String), r ∈ xs →
      BuiltAlike ⟨before ++ ⟨name, role, xs ++ r :: ys⟩ :: after⟩
        ⟨before ++ ⟨name, role, xs ++ ys⟩ :: after⟩) := by
  refine ⟨fun m cs hcs => .of_graph_eq ?_, fun before after name role r₁ r₂ => .of_graph_eq ?_,
    fun before after name role xs r ys hr => .of_graph_eq ?_⟩
  · rw [graph_append]
    exact foldl_add_of_subset hcs
  · have hsplit := ComponentGraph.add_split (describes_graph ⟨before⟩) name role r₁ r₂
    rw [graph_append, graph_append, List.foldl_cons, List.foldl_cons, List.foldl_cons, hsplit]
  · have hrepeat := ComponentGraph.add_repeat (describes_graph ⟨before⟩) name role hr ys
    rw [graph_append, graph_append, List.foldl_cons, List.foldl_cons, hrepeat]

/-- The shop told at greater length and in fewer words: with `cache` and `web` once more at its end, with
the first declaration of `web` in two, and with one `disk` for `db`. -/
theorem shop_retold :
    shop.BuiltAlike ⟨shop.components ++ [{ name := "cache" },
      { name := "web", role := some "front", requires := ["db", "disk"] }]⟩ ∧
    shop.BuiltAlike ⟨[{ name := "web", requires := ["db"] }, { name := "web", requires := ["cache"] },
      { name := "db", role := some "store", requires := ["disk", "disk"] }, { name := "cache" },
      { name := "web", role := some "front", requires := ["db", "disk"] }]⟩ ∧
    shop.BuiltAlike ⟨[{ name := "web", requires := ["db", "cache"] },
      { name := "db", role := some "store", requires := ["disk"] }, { name := "cache" },
      { name := "web", role := some "front", requires := ["db", "disk"] }]⟩ := by
  obtain ⟨hmore, hsplit, hrepeat⟩ := redundant_declarations
  exact ⟨hmore shop _ (by decide),
    hsplit [] [⟨"db", some "store", ["disk", "disk"]⟩, ⟨"cache", none, []⟩,
      ⟨"web", some "front", ["db", "disk"]⟩] "web" none ["db"] ["cache"],
    hrepeat [⟨"web", none, ["db", "cache"]⟩] [⟨"cache", none, []⟩,
      ⟨"web", some "front", ["db", "disk"]⟩] "db" (some "store") ["disk"] "disk" [] (by decide)⟩

end Manifest

end Lifecycle
