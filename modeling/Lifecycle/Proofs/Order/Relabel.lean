import Lifecycle.Proofs.Graph.Build
import Lifecycle.Proofs.Order.Agreement
import Mathlib

/-!
# Labels are names only

`Graph.relabel` changes the labels of a graph and leaves handles, edges, payloads and orders as they are.
No operation looks at the text of a label but to report it, so each of them commutes with the change.

* `vertex?_relabel`, `label_relabel`, `modifyVertex_relabel`: what is read and written per vertex.
* **`verify_relabel`**: a verification comes to the same, with the changed labels in its report.
* **`topologicalOrder_relabel`**: so does sorting all vertices.
-/

namespace Lifecycle

/-- Tests that agree on a list succeed first at the same place. -/
theorem findIdx?_congr {β : Type} {p q : β → Bool} :
    ∀ {xs : List β}, (∀ x ∈ xs, p x = q x) → xs.findIdx? p = xs.findIdx? q
  | [], _ => rfl
  | x :: xs, h => by
    rw [List.findIdx?_cons, List.findIdx?_cons, h x List.mem_cons_self,
      findIdx?_congr fun y hy => h y (List.mem_cons_of_mem x hy)]

variable {α : Type} {f : String → String}

/-- A failure with the labels in it changed. -/
def GraphError.relabel (f : String → String) : GraphError → GraphError
  | cycle c => cycle ⟨c.path.map f, c.vertices⟩
  | missingVertex vertex requiredBy => missingVertex (f vertex) (f requiredBy)
  | vertexNotFound index => vertexNotFound index

namespace Graph

variable {g : Graph α}

/-- A graph with its labels changed. -/
def relabel (g : Graph α) (f : String → String) : Graph α where
  vertices := g.vertices.map fun x => { x with label := f x.label }
  edges := g.edges
  newest := g.newest
  newest_size := by simp [g.newest_size]
  edge_lt := by simpa using g.edge_lt
  edges_nodup := g.edges_nodup
  newest_getD := g.newest_getD

@[simp] theorem size_relabel (g : Graph α) (f : String → String) : (g.relabel f).size = g.size :=
  Array.size_map

@[simp] theorem dependencies_relabel (g : Graph α) (f : String → String) (v : Nat) :
    (g.relabel f).dependencies v = g.dependencies v := rfl

theorem ids_relabel (g : Graph α) (f : String → String) : (g.relabel f).ids = g.ids := by
  unfold ids
  rw [size_relabel]

theorem contains_relabel (g : Graph α) (f : String → String) (v : Nat) :
    (g.relabel f).contains v = g.contains v := by
  unfold contains
  rw [size_relabel]

theorem vertex?_relabel (g : Graph α) (f : String → String) (v : Nat) :
    (g.relabel f).vertex? v = (g.vertex? v).map fun x => { x with label := f x.label } :=
  Array.getElem?_map

/-- A vertex has the changed label. A foreign handle has none, so its `<unknown>` stays. -/
theorem label_relabel {v : Nat} (hv : v < g.size) : (g.relabel f).label v = f (g.label v) := by
  obtain ⟨x, hx⟩ : ∃ x, g.vertex? v = some x := ⟨_, Array.getElem?_eq_getElem hv⟩
  rw [label, label, vertex?_relabel, hx]
  rfl

/-! ## Writing -/

/-- A change of a vertex that does not look at the label commutes with changing labels. -/
theorem modifyVertex_relabel {h : Vertex α → Vertex α}
    (hlabel : ∀ x, h { x with label := f x.label } = { h x with label := f (h x).label }) (v : Nat) :
    (g.relabel f).modifyVertex v h = (g.modifyVertex v h).relabel f := by
  have hread : ∀ (g' : Graph α) (u : Nat),
      (g'.modifyVertex v h).vertex? u = if v = u then (g'.vertex? u).map h else g'.vertex? u :=
    fun _ _ => Array.getElem?_modify
  refine ext_vertex? (fun u => ?_) rfl
  rw [vertex?_relabel, hread, hread, vertex?_relabel]
  split
  · rw [Option.map_map, Option.map_map]
    exact congrFun (congrArg Option.map (funext hlabel)) _
  · rfl

theorem setOrder_relabel (g : Graph α) (v k : Nat) :
    (g.relabel f).setOrder v k = (g.setOrder v k).relabel f :=
  modifyVertex_relabel (fun _ => rfl) v

theorem foldl_setOrder_relabel (vs : List Nat) (order : Nat → Nat) :
    vs.foldl (fun g v => g.setOrder v (order v)) (g.relabel f)
      = (vs.foldl (fun g v => g.setOrder v (order v)) g).relabel f :=
  List.foldl_hom (relabel · f) fun g v => setOrder_relabel g v (order v)

/-- A new vertex has the changed label from the start. -/
theorem addVertex_relabel (g : Graph α) (name : String) (payload : α) :
    (g.relabel f).addVertex (f name) payload = (g.addVertex name payload).relabel f := by
  refine ext_vertex? (fun v => ?_) rfl
  rw [vertex?_relabel, vertex?_addVertex, vertex?_addVertex, size_relabel, vertex?_relabel]
  split <;> rfl

theorem link_relabel (g : Graph α) (a b : Nat) :
    (g.relabel f).link a b = (g.link a b).relabel f := by
  have hnew : (a < (g.relabel f).vertices.size ∧ b < (g.relabel f).vertices.size ∧
      b ∉ (g.relabel f).newest.getD a []) ↔
      a < g.vertices.size ∧ b < g.vertices.size ∧ b ∉ g.newest.getD a [] := by
    have hsize : (g.relabel f).vertices.size = g.vertices.size := size_relabel g f
    rw [hsize]
    rfl
  refine ext_vertex? (fun v => ?_) ?_
  · have hsame : ∀ g' : Graph α, (g'.link a b).vertex? v = g'.vertex? v := fun g' => by
      rw [vertex?, vertices_link]
      rfl
    rw [hsame, vertex?_relabel, vertex?_relabel, hsame]
  · unfold link
    by_cases h : a < g.vertices.size ∧ b < g.vertices.size ∧ b ∉ g.newest.getD a []
    · rw [dif_pos h, dif_pos (hnew.mpr h)]
      rfl
    · rw [dif_neg h, dif_neg (mt hnew.mp h)]

/-- A name is found where it was, if it is told from the other labels as before. -/
theorem find?_relabel {name : String}
    (h : ∀ x ∈ g.vertices.toList, f x.label = f name → x.label = name) :
    (g.relabel f).find? (f name) = g.find? name := by
  unfold find? relabel
  have hlist : ∀ p, g.vertices.findIdx? p = g.vertices.toList.findIdx? p := fun p => by
    rw [← List.findIdx?_toArray]
  rw [Array.findIdx?_map, hlist, hlist]
  refine findIdx?_congr fun x hx => ?_
  rw [Bool.eq_iff_iff, Function.comp, beq_iff_eq, beq_iff_eq]
  exact ⟨h x hx, fun heq => by rw [heq]⟩

/-! ## Verifying -/

/-- A refused list is refused for the same entries. -/
theorem checkListed_relabel (vs : List Nat) :
    (g.relabel f).checkListed vs = (g.checkListed vs).mapError (·.relabel f) := by
  have hunlisted : (g.relabel f).unlisted? vs = g.unlisted? vs := by
    unfold unlisted?
    simp only [size_relabel]
    rfl
  unfold checkListed
  simp only [contains_relabel, hunlisted]
  split
  · rfl
  · split
    · rename_i v d hfirst
      obtain ⟨-, before, after, hmem, -⟩ := unlisted?_eq_some.mp hfirst
      have hd : d ∈ g.dependencies v := by
        rw [← List.mem_reverse, hmem]
        simp
      rw [label_relabel (dependency_lt hd), label_relabel (lt_of_mem_dependencies hd)]
      rfl
    · rfl

/-- A pass over a closed list reports vertices of the graph. -/
theorem lt_of_pass {vs us : List Nat} (hclosed : g.Closed vs) (h : (g.pass vs).2 = some us) :
    ∀ u ∈ us, u < g.size := by
  obtain ⟨hcycle, -⟩ := Walk.resolveEach_spec Walk.Settled.init hclosed.lt
  have hfound : vs.findSome? g.cycleFrom? = some us := hcycle.symm.trans h
  intro u hu
  obtain ⟨v, hv, hr⟩ := (isCycle_of_findSome? hfound).2 u hu
  exact hclosed.lt u (hr.mem_of_closed hclosed.dependency hv)

/-- **A verification comes to the same under other labels.** -/
theorem verify_relabel (vs : List Nat) :
    (g.relabel f).verify vs
      = ((g.verify vs).1.relabel f, (g.verify vs).2.mapError (·.relabel f)) := by
  unfold verify
  rw [checkListed_relabel, pass_congr (dependencies_relabel g f) (size_relabel g f)]
  cases hcheck : g.checkListed vs with
  | error e => rfl
  | ok u =>
    obtain ⟨w, found, hpass⟩ : ∃ w found, g.pass vs = (w, found) := ⟨_, _, rfl⟩
    rw [hpass]
    cases found with
    | none =>
      show (vs.foldl (fun g v => g.setOrder v (w.orderD v)) (g.relabel f), _) = _
      rw [foldl_setOrder_relabel]
      rfl
    | some us =>
      have hlt := lt_of_pass (checkListed_eq_ok_iff.mp hcheck) (congrArg Prod.snd hpass)
      have hlabels : us.map (g.relabel f).label = (us.map g.label).map f := by
        rw [List.map_map]
        exact List.map_congr_left fun u hu => label_relabel (hlt u hu)
      show (vs.foldl (fun g v => g.setOrder v 0) (g.relabel f),
        Except.error (GraphError.cycle ⟨us.map (g.relabel f).label, us⟩)) = _
      rw [foldl_setOrder_relabel vs fun _ => 0, hlabels]
      rfl

theorem topologicalSort_relabel (vs : List Nat) :
    (g.relabel f).topologicalSort vs
      = ((g.topologicalSort vs).1.relabel f, (g.topologicalSort vs).2.mapError (·.relabel f)) := by
  unfold topologicalSort
  rw [verify_relabel]
  obtain ⟨g', r, hverify⟩ : ∃ g' r, g.verify vs = (g', r) := ⟨_, _, rfl⟩
  rw [hverify]
  cases r with
  | error e => rfl
  | ok o => rfl

/-- **All vertices are sorted in the same way under other labels.** -/
theorem topologicalOrder_relabel (g : Graph α) (f : String → String) :
    (g.relabel f).topologicalOrder
      = (g.topologicalOrder.1.relabel f, g.topologicalOrder.2.mapError (·.relabel f)) := by
  unfold topologicalOrder
  rw [ids_relabel, topologicalSort_relabel]
  obtain ⟨g', r, hsort⟩ : ∃ g' r, g.topologicalSort g.ids = (g', r) := ⟨_, _, rfl⟩
  rw [hsort]
  cases r with
  | error e => rfl
  | ok sorted => rfl

end Graph

end Lifecycle
