import Lifecycle.Graph.Recursion
import Lifecycle.Proofs.Graph.Shape
import Lifecycle.Proofs.Manifest.Names
import Mathlib

/-!
# The graph of a manifest is the merge of its declarations

`ComponentGraph.Describes` ties a graph to three tables: the names of its vertices in order, what is
known of a name and what it requires. Adding a vertex, changing a payload and linking two vertices
change one table each.

* `describes_declare` and `describes_require`: the graph follows its manifest, line by line.
* **`describes_graph`**: so the graph of a manifest describes the names of the manifest.
* `buildGraph_eq`: no edge is refused on the way.
* **`graph_is_merge`**: both facts, read off the vertices.
-/

namespace Lifecycle

namespace ComponentGraph

variable {g : ComponentGraph} {names : List String} {standing : String → Standing}
  {requires : String → List String}

/-- The vertices of a graph are the listed names, with what is known of each and what each requires. -/
structure Describes (g : ComponentGraph) (names : List String) (standing : String → Standing)
    (requires : String → List String) : Prop where
  nodup : names.Nodup
  vertices : g.vertices.toList = names.map fun n => { label := n, payload := standing n }
  requires : ∀ v n, names[v]? = some n → g.dependencyLabels v = requires n

namespace Describes

theorem size_eq (h : Describes g names standing requires) : g.size = names.length := by
  rw [Graph.size, ← Array.length_toList, h.vertices, List.length_map]

theorem vertex?_eq (h : Describes g names standing requires) (v : Nat) :
    g.vertex? v = names[v]?.map fun n => { label := n, payload := standing n } := by
  rw [Graph.vertex?, ← Array.getElem?_toList, h.vertices, List.getElem?_map]

theorem label_eq (h : Describes g names standing requires) {v : Nat} {n : String}
    (hv : names[v]? = some n) : g.label v = n := by
  rw [Graph.label, h.vertex?_eq, hv]
  rfl

theorem getElem?_label (h : Describes g names standing requires) {v : Nat} (hv : v < g.size) :
    names[v]? = some (g.label v) := by
  rw [h.size_eq] at hv
  rw [h.label_eq (List.getElem?_eq_getElem hv), List.getElem?_eq_getElem hv]

/-- Different vertices have different labels. -/
theorem label_inj (h : Describes g names standing requires) {v w : Nat} (hv : v < g.size)
    (hw : w < g.size) (hlabel : g.label v = g.label w) : v = w := by
  refine (List.getElem?_inj (h.size_eq ▸ hv) h.nodup).mp ?_
  rw [h.getElem?_label hv, h.getElem?_label hw, hlabel]

theorem map_label_ids (h : Describes g names standing requires) : g.ids.map g.label = names := by
  refine List.ext_getElem? fun v => ?_
  rw [List.getElem?_map, Graph.ids]
  by_cases hv : v < g.size
  · rw [List.getElem?_range hv, h.getElem?_label hv]
    rfl
  · rw [List.getElem?_eq_none (by rw [List.length_range]; omega),
      List.getElem?_eq_none (by rw [← h.size_eq]; omega)]
    rfl

/-- A vertex stands where its label does. -/
theorem idxOf_label (h : Describes g names standing requires) {v : Nat} (hv : v < g.size) :
    names.idxOf (g.label v) = v := by
  obtain ⟨hlt, hget⟩ := List.getElem?_eq_some_iff.mp (h.getElem?_label hv)
  rw [← hget]
  exact h.nodup.idxOf_getElem v hlt

theorem find?_eq (h : Describes g names standing requires) (name : String) :
    g.find? name = names.findIdx? (· == name) := by
  have harray : g.vertices = (names.map fun n => (⟨n, standing n, 0⟩ : Vertex Standing)).toArray := by
    rw [← h.vertices]
  rw [Graph.find?, harray, List.findIdx?_toArray, List.findIdx?_map]
  rfl

/-- A listed name is found at its position. -/
theorem find?_of_mem (h : Describes g names standing requires) {name : String} (hname : name ∈ names) :
    ∃ v, g.find? name = some v ∧ names[v]? = some name := by
  rw [h.find?_eq]
  cases hfind : names.findIdx? (· == name) with
  | none =>
    have hne := List.findIdx?_eq_none_iff.mp hfind name hname
    simp at hne
  | some v =>
    obtain ⟨hlt, heq, -⟩ := List.findIdx?_eq_some_iff_getElem.mp hfind
    exact ⟨v, rfl, by rw [List.getElem?_eq_getElem hlt, eq_of_beq heq]⟩

/-- A name is found where it stands. -/
theorem find?_of_getElem? (h : Describes g names standing requires) {v : Nat} {name : String}
    (hv : names[v]? = some name) : g.find? name = some v := by
  obtain ⟨u, hfind, hu⟩ := h.find?_of_mem (List.mem_of_getElem? hv)
  obtain ⟨hlt, -⟩ := List.getElem?_eq_some_iff.mp hu
  rw [hfind, (List.getElem?_inj hlt h.nodup).mp (hu.trans hv.symm)]

theorem find?_of_not_mem (h : Describes g names standing requires) {name : String}
    (hname : name ∉ names) : g.find? name = none := by
  rw [h.find?_eq, List.findIdx?_eq_none_iff]
  intro n hn
  exact beq_eq_false_iff_ne.mpr fun heq => hname (heq ▸ hn)

/-! ### One change each -/

/-- A new vertex adds its name. -/
theorem addVertex (h : Describes g names standing requires) {name : String} (hname : name ∉ names)
    (s : Standing) (hrequires : requires name = []) :
    Describes (g.addVertex name s) (names ++ [name]) (Function.update standing name s) requires where
  nodup := by
    rw [← List.concat_eq_append, List.nodup_concat]
    exact ⟨hname, h.nodup⟩
  vertices := by
    have hold : ∀ n ∈ names, Function.update standing name s n = standing n := fun n hn =>
      Function.update_of_ne (ne_of_mem_of_not_mem hn hname) s standing
    rw [Graph.addVertex, Array.toList_push, h.vertices, List.map_append, List.map_singleton,
      Function.update_self]
    congr 1
    exact List.map_congr_left fun n hn => by rw [hold n hn]
  requires := fun v n hv => by
    have hlabels : (g.addVertex name s).dependencyLabels v = g.dependencyLabels v := by
      rw [Graph.dependencyLabels, Graph.dependencies_addVertex, Graph.dependencyLabels]
      exact List.map_congr_left fun d hd =>
        Graph.label_addVertex_of_lt (Graph.dependency_lt hd) name s
    rw [hlabels]
    by_cases hlt : v < names.length
    · rw [List.getElem?_append_left hlt] at hv
      exact h.requires v n hv
    · rw [List.getElem?_append_right (Nat.le_of_not_lt hlt)] at hv
      obtain rfl : n = name := (List.mem_singleton.mp (List.mem_of_getElem? hv))
      rw [hrequires, Graph.dependencyLabels, Graph.dependencies_of_le (by rw [h.size_eq]; omega)]
      rfl

/-- A change of the payload of a vertex changes what is known of its name. -/
theorem modifyPayload (h : Describes g names standing requires) {v : Nat} {name : String}
    (hv : names[v]? = some name) (f : Standing → Standing) :
    Describes (g.modifyPayload v f) names (Function.update standing name (f (standing name)))
      requires where
  nodup := h.nodup
  vertices := by
    refine List.ext_getElem? fun u => ?_
    rw [Graph.modifyPayload, Graph.modifyVertex, Array.getElem?_toList, Array.getElem?_modify,
      ← Array.getElem?_toList, h.vertices, List.getElem?_map, List.getElem?_map]
    by_cases huv : v = u
    · subst huv
      rw [if_pos rfl, hv, Option.map_some, Option.map_some, Option.map_some, Function.update_self]
    · rw [if_neg huv]
      cases hu : names[u]? with
      | none => rfl
      | some n =>
        have hne : n ≠ name := by
          rintro rfl
          have hlt : v < names.length := (List.getElem?_eq_some_iff.mp hv).1
          exact huv ((List.getElem?_inj hlt h.nodup).mp (hv.trans hu.symm))
        rw [Option.map_some, Option.map_some, Function.update_of_ne hne]
  requires := fun u n hu => by
    have hlabels : (g.modifyPayload v f).dependencyLabels u = g.dependencyLabels u := by
      rw [Graph.dependencyLabels, Graph.dependencyLabels,
        (Graph.sameShape_modifyPayload g v f).dependencies]
      exact List.map_congr_left fun d _ => (Graph.sameShape_modifyPayload g v f).label d
    rw [hlabels]
    exact h.requires u n hu

/-- An edge adds a requirement. -/
theorem link (h : Describes g names standing requires) {v d : Nat} {name other : String}
    (hv : names[v]? = some name) (hd : names[d]? = some other) :
    Describes (g.link v d) names standing
      (Function.update requires name (addNew (requires name) other)) where
  nodup := h.nodup
  vertices := by rw [Graph.vertices_link, h.vertices]
  requires := fun u n hu => by
    have hlt : ∀ {i : Nat} {x : String}, names[i]? = some x → i < g.size := fun hi => by
      rw [h.size_eq]
      exact (List.getElem?_eq_some_iff.mp hi).1
    have hlabel : ∀ i, (g.link v d).label i = g.label i := fun i => by
      rw [Graph.label, Graph.vertex?, Graph.vertices_link]
      rfl
    rw [Graph.dependencyLabels, Graph.dependencies_link (hlt hv) (hlt hd), funext hlabel]
    by_cases huv : v = u
    · subst huv
      obtain rfl : name = n := Option.some.inj (hv.symm.trans hu)
      have hinj : ∀ e ∈ g.dependencies v, g.label e = g.label d → e = d := fun e he =>
        h.label_inj (Graph.dependency_lt he) (hlt hd)
      rw [if_pos rfl, map_addNew hinj, h.label_eq hd, Function.update_self, ← h.requires v name hv]
      rfl
    · have hne : n ≠ name := by
        rintro rfl
        exact huv (h.label_inj (hlt hv) (hlt hu) (by rw [h.label_eq hv, h.label_eq hu]))
      rw [if_neg huv, Function.update_of_ne hne, ← h.requires u n hu]
      rfl

end Describes

/-! ## Line by line -/

variable {m : Manifest} {name : String} {role : Option String} {required : List String} {v : Nat}

/-- A graph describes a manifest: its names, what is known of them and what they require. -/
abbrev DescribesManifest (g : ComponentGraph) (m : Manifest) : Prop :=
  Describes g m.names m.standingOf m.requirementsOf

/-- **A declaration without its requirements** is a line of the manifest. -/
theorem describes_declare (h : DescribesManifest g m) (c : Component) :
    DescribesManifest (declare g c).1 (m.snoc ⟨c.name, c.role, []⟩)
      ∧ (m.snoc ⟨c.name, c.role, []⟩).names[(declare g c).2]? = some c.name := by
  unfold DescribesManifest
  rw [Manifest.names_snoc_bare, Manifest.standingOf_snoc, Manifest.requirementsOf_snoc_bare]
  by_cases hname : c.name ∈ m.names
  · obtain ⟨v, hfind, hv⟩ := h.find?_of_mem hname
    have hdeclare : declare g c = (g.modifyPayload v (Standing.declare · c.role), v) := by
      simp only [declare, intern, hfind]
    rw [hdeclare, addNew_of_mem hname]
    exact ⟨h.modifyPayload hv (Standing.declare · c.role), hv⟩
  · have hdeclare : declare g c
        = ((g.addVertex c.name {}).modifyPayload g.size (Standing.declare · c.role), g.size) := by
      simp only [declare, intern, h.find?_of_not_mem hname]
    have hv : (m.names ++ [c.name])[g.size]? = some c.name := by
      rw [h.size_eq, List.getElem?_concat_length]
    have hundeclared := Manifest.declares_of_not_mem hname
    have hvertex := h.addVertex hname {} (Manifest.requirementsOf_of_not_declares hundeclared)
    have hpayload := hvertex.modifyPayload hv (Standing.declare · c.role)
    rw [Function.update_self, Function.update_idem] at hpayload
    rw [hdeclare, addNew_of_not_mem hname, Manifest.standingOf_of_not_declares hundeclared]
    exact ⟨hpayload, hv⟩

/-- **One more requirement** of the last declaration is a longer line. -/
theorem describes_require (h : DescribesManifest g (m.snoc ⟨name, role, required⟩))
    (hv : (m.snoc ⟨name, role, required⟩).names[v]? = some name) (other : String) :
    DescribesManifest (require v g other) (m.snoc ⟨name, role, required ++ [other]⟩)
      ∧ (m.snoc ⟨name, role, required ++ [other]⟩).names[v]? = some name := by
  have hstanding : (m.snoc ⟨name, role, required ++ [other]⟩).standingOf
      = (m.snoc ⟨name, role, required⟩).standingOf := by
    rw [Manifest.standingOf_snoc, Manifest.standingOf_snoc]
  unfold DescribesManifest
  rw [Manifest.names_snoc_requiring, hstanding, Manifest.requirementsOf_snoc_requiring]
  refine ⟨?_, getElem?_addNew hv⟩
  generalize m.snoc ⟨name, role, required⟩ = m' at h hv
  by_cases hother : other ∈ m'.names
  · obtain ⟨d, hfind, hd⟩ := h.find?_of_mem hother
    have hrequire : require v g other = g.link v d := by
      simp only [require, intern, hfind]
    rw [hrequire, addNew_of_mem hother]
    exact h.link hv hd
  · have hrequire : require v g other = (g.addVertex other { external := true }).link v g.size := by
      simp only [require, intern, h.find?_of_not_mem hother]
    have hd : (m'.names ++ [other])[g.size]? = some other := by
      rw [h.size_eq, List.getElem?_concat_length]
    have hundeclared := Manifest.declares_of_not_mem hother
    have hvertex := h.addVertex hother { external := true }
      (Manifest.requirementsOf_of_not_declares hundeclared)
    have hsame : Function.update m'.standingOf other { external := true } = m'.standingOf := by
      rw [← Manifest.standingOf_of_not_declares hundeclared, Function.update_eq_self]
    have hv' := getElem?_addNew (x := other) hv
    rw [addNew_of_not_mem hother] at hv'
    rw [hsame] at hvertex
    rw [hrequire, addNew_of_not_mem hother]
    exact hvertex.link hv' hd

/-- The requirements of a declaration, one after the other. -/
theorem describes_foldl_require :
    ∀ (others : List String) {required : List String} {g : ComponentGraph},
      DescribesManifest g (m.snoc ⟨name, role, required⟩) →
      (m.snoc ⟨name, role, required⟩).names[v]? = some name →
      DescribesManifest (others.foldl (require v) g) (m.snoc ⟨name, role, required ++ others⟩)
        ∧ (m.snoc ⟨name, role, required ++ others⟩).names[v]? = some name
  | [], required, _, h, hv => by
    rw [List.append_nil]
    exact ⟨h, hv⟩
  | other :: others, required, g, h, hv => by
    obtain ⟨hnext, hv'⟩ := describes_require h hv other
    have hall := describes_foldl_require others hnext hv'
    rw [List.append_assoc] at hall
    exact hall

/-- **A declaration is a line of the manifest**, and its name stays where it was found or put. -/
theorem describes_add (h : DescribesManifest g m) (c : Component) :
    DescribesManifest (add g c) (m.snoc c) ∧ (m.snoc c).names[(declare g c).2]? = some c.name := by
  obtain ⟨hdeclare, hv⟩ := describes_declare h c
  exact describes_foldl_require c.requires hdeclare hv

theorem describes_foldl_add :
    ∀ (cs : List Component) {g : ComponentGraph} {m : Manifest}, DescribesManifest g m →
      DescribesManifest (cs.foldl add g) ⟨m.components ++ cs⟩
  | [], _, m, h => by
    rw [List.append_nil]
    exact h
  | c :: cs, g, m, h => by
    have hall := describes_foldl_add cs (describes_add h c).1
    rw [Manifest.snoc, List.append_assoc] at hall
    exact hall

theorem describes_empty : DescribesManifest Graph.empty ⟨[]⟩ where
  nodup := List.nodup_nil
  vertices := rfl
  requires := fun v n hv => by
    have hnone : (Manifest.names ⟨[]⟩)[v]? = none := List.getElem?_nil
    rw [hnone] at hv
    cases hv

end ComponentGraph

namespace Manifest

/-- **The graph of a manifest describes it.** -/
theorem describes_graph (m : Manifest) : ComponentGraph.DescribesManifest m.graph m :=
  ComponentGraph.describes_foldl_add m.components ComponentGraph.describes_empty

end Manifest

/-! ## No edge is refused -/

namespace ComponentGraph

theorem find?_lt {g : ComponentGraph} {name : String} {v : Nat} (h : g.find? name = some v) :
    v < g.size := by
  obtain ⟨hlt, -⟩ := Array.findIdx?_eq_some_iff_getElem.mp h
  exact hlt

/-- Interning a name keeps the vertices and gives one of them. -/
theorem intern_lt (g : ComponentGraph) (name : String) (s : Standing) :
    g.size ≤ (intern g name s).1.size ∧ (intern g name s).2 < (intern g name s).1.size := by
  unfold intern
  split
  · rename_i v hv
    exact ⟨Nat.le_refl g.size, find?_lt hv⟩
  · rw [Graph.size_addVertex]
    exact ⟨Nat.le_succ g.size, Nat.lt_succ_self g.size⟩

theorem tryRequire_eq {g : ComponentGraph} {v : Nat} (hv : v < g.size) (name : String) :
    tryRequire v g name = .ok (require v g name) := by
  obtain ⟨hsize, hd⟩ := intern_lt g name { external := true }
  unfold tryRequire require
  dsimp only
  rw [Graph.addDependency_eq (Nat.lt_of_lt_of_le hv hsize) hd]

theorem lt_size_require {g : ComponentGraph} {v : Nat} (hv : v < g.size) (name : String) :
    v < (require v g name).size := by
  unfold require
  rw [Graph.size_link]
  exact Nat.lt_of_lt_of_le hv (intern_lt g name { external := true }).1

theorem foldlM_tryRequire_eq {v : Nat} :
    ∀ {names : List String} {g : ComponentGraph}, v < g.size →
      names.foldlM (tryRequire v) g = .ok (names.foldl (require v) g)
  | [], _, _ => rfl
  | name :: names, g, hv => by
    rw [List.foldlM_cons, tryRequire_eq hv, List.foldl_cons]
    exact foldlM_tryRequire_eq (lt_size_require hv name)

theorem tryAdd_eq (g : ComponentGraph) (c : Component) : tryAdd g c = .ok (add g c) := by
  have hlt : (declare g c).2 < (declare g c).1.size := by
    unfold declare
    rw [Graph.size_modifyPayload]
    exact (intern_lt g c.name {}).2
  exact foldlM_tryRequire_eq hlt

theorem foldlM_tryAdd_eq :
    ∀ (cs : List Component) (g : ComponentGraph), cs.foldlM tryAdd g = .ok (cs.foldl add g)
  | [], _ => rfl
  | c :: cs, g => by
    rw [List.foldlM_cons, tryAdd_eq, List.foldl_cons]
    exact foldlM_tryAdd_eq cs (add g c)

end ComponentGraph

namespace Manifest

/-- **A manifest, cyclic or not, gives a graph.** -/
theorem buildGraph_eq (m : Manifest) : m.buildGraph = .ok m.graph :=
  ComponentGraph.foldlM_tryAdd_eq m.components Graph.empty

/-- **The graph of a manifest is exactly the merge of its declarations.** It is built, whatever the
manifest. Its vertices are the names in the order of first mention; a vertex is external if no
declaration has its name, has the first role that a declaration of its name gives, and depends on all
that the declarations of its name require, each counted where it is required first. An external vertex
has neither dependencies nor a role. -/
theorem graph_is_merge (m : Manifest) :
    ∃ g, m.buildGraph = .ok g ∧ g.ids.map g.label = m.names ∧ (g.ids.map g.label).Nodup ∧
      ∀ v x, g.vertex? v = some x →
        (x.payload.external = true ↔ ∀ c ∈ m.components, c.name ≠ x.label) ∧
        x.payload.role = m.roleOf x.label ∧
        g.dependencyLabels v = m.requirementsOf x.label ∧
        (x.payload.external = true → g.dependencies v = [] ∧ x.payload.role = none) := by
  have hg := m.describes_graph
  refine ⟨m.graph, m.buildGraph_eq, hg.map_label_ids, hg.map_label_ids ▸ hg.nodup, ?_⟩
  intro v x hx
  rw [hg.vertex?_eq] at hx
  obtain ⟨name, hv, rfl⟩ := Option.map_eq_some_iff.mp hx
  have hexternal : (m.standingOf name).external = true ↔ m.declares name = false := by
    rw [standingOf, Bool.not_eq_true']
  refine ⟨?_, rfl, hg.requires v name hv, ?_⟩
  · rw [hexternal, Bool.eq_false_iff, ne_eq, declares_iff]
    simp only [not_exists, not_and, ne_eq]
  · intro hundeclared
    rw [hexternal] at hundeclared
    have hrequires := hg.requires v name hv
    rw [requirementsOf_of_not_declares hundeclared, Graph.dependencyLabels,
      List.map_eq_nil_iff] at hrequires
    exact ⟨hrequires, by rw [standingOf_of_not_declares hundeclared]⟩

/-- Four declarations: `web` is declared twice, `db` after it is required, and `disk` never. -/
def shop : Manifest :=
  ⟨[{ name := "web", requires := ["db", "cache"] },
    { name := "db", role := some "store", requires := ["disk", "disk"] },
    { name := "cache" },
    { name := "web", role := some "front", requires := ["db", "disk"] }]⟩

/-- The graph of the shop: the second role of `web` counts, its requirements add up, and `disk` is
external. -/
theorem shop_graph : ∃ g, shop.buildGraph = .ok g ∧
    g.ids.map g.label = ["web", "db", "cache", "disk"] ∧
    g.vertex? 0 = some ⟨"web", ⟨some "front", false⟩, 0⟩ ∧
    g.dependencyLabels 0 = ["db", "cache", "disk"] ∧
    g.vertex? 3 = some ⟨"disk", ⟨none, true⟩, 0⟩ ∧ g.dependencies 3 = [] := by
  obtain ⟨g, hg, hlabels, -, hvertex⟩ := graph_is_merge shop
  have hbuilt : shop.buildGraph = .ok shop.graph := by cbv
  obtain rfl : shop.graph = g := Except.ok.inj (hbuilt.symm.trans hg)
  have hnames : shop.names = ["web", "db", "cache", "disk"] := by cbv
  have hweb : shop.graph.vertex? 0 = some ⟨"web", ⟨some "front", false⟩, 0⟩ := by cbv
  have hdisk : shop.graph.vertex? 3 = some ⟨"disk", ⟨none, true⟩, 0⟩ := by cbv
  have hrequires : shop.requirementsOf "web" = ["db", "cache", "disk"] := by cbv
  obtain ⟨-, -, hdependencies, -⟩ := hvertex 0 _ hweb
  obtain ⟨-, -, -, hexternal⟩ := hvertex 3 _ hdisk
  exact ⟨shop.graph, hg, hlabels.trans hnames, hweb, hdependencies.trans hrequires, hdisk,
    (hexternal rfl).1⟩

end Manifest

end Lifecycle
