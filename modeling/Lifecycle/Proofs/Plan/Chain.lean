import Lifecycle.Proofs.Order.Report
import Lifecycle.Proofs.Plan.Merge
import Mathlib

/-!
# Chains of requirements

A chain of a manifest is a list of names of which each requires the next. The chains are the paths of
any graph that describes the manifest, with labels for vertices.

* `Manifest.Acyclic`, `Manifest.HasDepth`, `Manifest.IsCycle`: what `Chain` says of relations, said of what
  requires what. If every name has a depth the manifest is acyclic (`acyclic_of_hasDepth`).
* **`hasDepth_label`** and **`isCycle_path`**: depths and reported cycles of a graph that describes a
  manifest are depths and cycles of the manifest.
-/

namespace Lifecycle

namespace Manifest

variable {m : Manifest}

/-- No name requires itself, directly or not. -/
abbrev Acyclic (m : Manifest) : Prop := Chain.Acyclic m.Requires

/-- The longest chain of requirements from a name has that many links. -/
abbrev HasDepth (m : Manifest) (name : String) (depth : Nat) : Prop :=
  Chain.HasDepth m.Requires name depth

/-- A closed list of names: different ones, each of which requires the next and the last the first,
which is repeated at the end. -/
abbrev IsCycle (m : Manifest) (names : List String) : Prop := Chain.IsCycle m.Requires names

theorem Requires.mem_names {a b : String} (h : m.Requires a b) : a ∈ m.names ∧ b ∈ m.names := by
  obtain ⟨c, hc, rfl, hb⟩ := h
  exact ⟨Manifest.mem_names.mpr ⟨c, hc, Or.inl rfl⟩, Manifest.mem_names.mpr ⟨c, hc, Or.inr hb⟩⟩

theorem Requires.declares {a b : String} (h : m.Requires a b) : m.declares a = true := by
  obtain ⟨c, hc, hname, -⟩ := h
  exact declares_iff.mpr ⟨c, hc, hname⟩

/-- If every name has a depth there is no cycle: one would run through names of the manifest. -/
theorem acyclic_of_hasDepth {f : String → Nat} (h : ∀ name ∈ m.names, m.HasDepth name (f name)) :
    m.Acyclic :=
  Chain.acyclic_of_hasDepth fun a _ hab => ⟨f a, h a hab.mem_names.1⟩

/-- Every name on a cycle is declared. -/
theorem IsCycle.declares {names : List String} {name : String} (h : m.IsCycle names)
    (hname : name ∈ names) : m.declares name = true := by
  obtain ⟨other, hother⟩ := h.exists_related hname
  exact hother.declares

end Manifest

/-! ## Chains are paths -/

namespace ComponentGraph

variable {g : ComponentGraph} {m : Manifest}

/-- What a vertex depends on is what its label requires. -/
theorem requires_label_iff (h : DescribesManifest g m) {v : Nat} {name : String} (hv : v < g.size) :
    m.Requires (g.label v) name ↔ ∃ d ∈ g.dependencies v, g.label d = name := by
  rw [← Manifest.mem_requirementsOf, ← h.requires v (g.label v) (h.getElem?_label hv)]
  exact List.mem_map

theorem isChain_of_isPath (h : DescribesManifest g m) {vs : List Nat} (hp : g.IsPath vs) :
    (vs.map g.label).IsChain m.Requires :=
  (List.isChain_map g.label).mpr <| hp.imp fun _ d hd =>
    (requires_label_iff h (Graph.lt_of_mem_dependencies hd)).mpr ⟨d, hd, rfl⟩

/-- A chain from the label of a vertex is the labels of a path from it. -/
theorem exists_isPath_of_isChain (h : DescribesManifest g m) :
    ∀ {names : List String} {v : Nat}, v < g.size → (g.label v :: names).IsChain m.Requires →
      ∃ path, g.IsPath (v :: path) ∧ path.map g.label = names
  | [], v, _, _ => ⟨[], .singleton v, rfl⟩
  | name :: names, v, hv, hchain => by
    obtain ⟨hstep, hrest⟩ := List.isChain_cons_cons.mp hchain
    obtain ⟨d, hd, rfl⟩ := (requires_label_iff h hv).mp hstep
    obtain ⟨path, hp, hlabels⟩ := exists_isPath_of_isChain h (Graph.dependency_lt hd) hrest
    exact ⟨d :: path, hp.cons_cons hd, by rw [List.map_cons, hlabels]⟩

/-- **The depth of a vertex is that of its label.** -/
theorem hasDepth_label (h : DescribesManifest g m) {v k : Nat} (hv : v < g.size)
    (hdepth : g.HasDepth v k) : m.HasDepth (g.label v) k where
  attained := by
    obtain ⟨path, hp, hlength⟩ := hdepth.attained
    exact ⟨path.map g.label, isChain_of_isPath h hp, by rw [List.length_map, hlength]⟩
  bounded := fun names hchain => by
    obtain ⟨path, hp, rfl⟩ := exists_isPath_of_isChain h hv hchain
    rw [List.length_map]
    exact hdepth.bounded path hp

/-- **A cycle of the graph is reported as a cycle of the manifest.** -/
theorem isCycle_path (h : DescribesManifest g m) {c : Cycle} (hc : g.Genuine g.ids c) :
    m.IsCycle c.path := by
  obtain ⟨v, rest, hvertices, hnodup, hp, hbelow, hpath, -⟩ := hc
  have hlt : ∀ u ∈ v :: rest, u < g.size := fun u hu => by
    obtain ⟨s, hs, hr⟩ := hbelow u hu
    exact hr.lt (Graph.mem_ids.mp hs)
  have hlabels : ((v :: rest).map g.label).Nodup :=
    hnodup.map_on fun a ha b hb hab => h.label_inj (hlt a ha) (hlt b hb) hab
  rw [hpath]
  exact ⟨g.label v, rest.map g.label, by rw [hvertices, List.map_append]; rfl, hlabels,
    isChain_of_isPath h hp⟩

end ComponentGraph

end Lifecycle
