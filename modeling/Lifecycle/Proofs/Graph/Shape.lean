import Lifecycle.Graph.Basic
import Lifecycle.Proofs.Order.Commit
import Mathlib

/-!
# What two graphs have in common

Committing and clearing orders leaves most of a graph alone. Two relations say what is left.

* `Graph.SameShape`: two graphs have the same labels and dependencies. Payloads, even their types,
  and orders may differ.
* `Graph.OnlyOrders`: a graph differs from another one at most in the orders of some vertices. It
  holds after any run of commits to these vertices (**`OnlyOrders.foldl_setOrder`**).
* **`ext_vertex?`**: a graph is determined by its vertices and its edges.
-/

namespace Lifecycle.Graph

variable {α β : Type} {g g' g'' : Graph α}

/-- The same vertices but for payloads and orders, and the same dependencies. -/
structure SameShape (g : Graph α) (g' : Graph β) : Prop where
  size : g'.size = g.size
  label : ∀ v, g'.label v = g.label v
  dependencies : ∀ v, g'.dependencies v = g.dependencies v

/-- The same graph but for the orders of the vertices with the property `p`. -/
structure OnlyOrders (g : Graph α) (p : Nat → Prop) (g' : Graph α) : Prop where
  size : g'.size = g.size
  edges : g'.edges = g.edges
  label : ∀ v, g'.label v = g.label v
  payload : ∀ v, (g'.vertex? v).map Vertex.payload = (g.vertex? v).map Vertex.payload
  dependencies : ∀ v, g'.dependencies v = g.dependencies v
  order : ∀ v, ¬ p v → g'.order? v = g.order? v

theorem SameShape.refl (g : Graph α) : g.SameShape g := ⟨rfl, fun _ => rfl, fun _ => rfl⟩

theorem SameShape.trans (h : g.SameShape g') (h' : g'.SameShape g'') : g.SameShape g'' where
  size := h'.size.trans h.size
  label := fun v => (h'.label v).trans (h.label v)
  dependencies := fun v => (h'.dependencies v).trans (h.dependencies v)

theorem OnlyOrders.sameShape {p : Nat → Prop} (h : g.OnlyOrders p g') : g.SameShape g' :=
  ⟨h.size, h.label, h.dependencies⟩

theorem OnlyOrders.refl (g : Graph α) (p : Nat → Prop) : g.OnlyOrders p g :=
  ⟨rfl, rfl, fun _ => rfl, fun _ => rfl, fun _ => rfl, fun _ _ => rfl⟩

theorem OnlyOrders.mono {p q : Nat → Prop} (h : g.OnlyOrders p g') (hpq : ∀ v, p v → q v) :
    g.OnlyOrders q g' where
  size := h.size
  edges := h.edges
  label := h.label
  payload := h.payload
  dependencies := h.dependencies
  order := fun v hv => h.order v fun hp => hv (hpq v hp)

/-! ## Commits -/

/-- A commit keeps whatever of a vertex is not its order. -/
theorem map_vertex?_setOrder {γ : Type} {f : Vertex α → γ}
    (hf : ∀ x k, f { x with order := k } = f x) (u v k : Nat) :
    ((g.setOrder v k).vertex? u).map f = (g.vertex? u).map f := by
  rw [vertex?_setOrder]
  split
  · cases g.vertex? u with
    | none => rfl
    | some x => exact congrArg some (hf x k)
  · rfl

theorem label_setOrder (u v k : Nat) : (g.setOrder v k).label u = g.label u := by
  unfold label
  rw [map_vertex?_setOrder fun _ _ => rfl]

/-- One more commit to a vertex with the property. -/
theorem OnlyOrders.setOrder {p : Nat → Prop} {v : Nat} (h : g.OnlyOrders p g') (hv : p v) (k : Nat) :
    g.OnlyOrders p (g'.setOrder v k) where
  size := (size_setOrder g' v k).trans h.size
  edges := h.edges
  label := fun u => (label_setOrder u v k).trans (h.label u)
  payload := fun u => (map_vertex?_setOrder (fun _ _ => rfl) u v k).trans (h.payload u)
  dependencies := h.dependencies
  order := fun u hu => by
    have hne : v ≠ u := fun e => hu (e ▸ hv)
    have hsame : (g'.setOrder v k).order? u = g'.order? u := by
      unfold order?
      rw [vertex?_setOrder, if_neg hne]
    exact hsame.trans (h.order u hu)

/-- **A run of commits changes the orders of the vertices committed to** and nothing else. -/
theorem OnlyOrders.foldl_setOrder {ε : Type} {p : Nat → Prop} {key value : ε → Nat} :
    ∀ {es : List ε} {g' : Graph α}, g.OnlyOrders p g' → (∀ e ∈ es, p (key e)) →
      g.OnlyOrders p (es.foldl (fun g e => g.setOrder (key e) (value e)) g')
  | [], _, h, _ => h
  | e :: es, g', h, hes => by
    rw [List.foldl_cons]
    have hstep : g.OnlyOrders p (g'.setOrder (key e) (value e)) :=
      h.setOrder (hes e List.mem_cons_self) (value e)
    exact hstep.foldl_setOrder fun e' he' => hes e' (List.mem_cons_of_mem e he')

theorem onlyOrders_resetEach (g : Graph α) (vs : List Nat) :
    g.OnlyOrders (· ∈ vs) (g.resetEach vs) := by
  have hcommits : g.OnlyOrders (· ∈ vs) (vs.foldl (fun g v => g.setOrder v 0) g) :=
    (OnlyOrders.refl g _).foldl_setOrder fun _ hv => hv
  exact hcommits

/-! ## Other changes of vertices -/

theorem sameShape_modifyPayload (g : Graph α) (v : Nat) (f : α → α) :
    g.SameShape (g.modifyPayload v f) where
  size := size_modifyPayload g v f
  label := fun u => by
    unfold label
    show ((g.vertices.modify v _)[u]?.map Vertex.label).getD _ = (g.vertices[u]?.map Vertex.label).getD _
    rw [Array.getElem?_modify]
    split
    · rw [Option.map_map]
      rfl
    · rfl
  dependencies := fun _ => rfl

theorem sameShape_resetAll (g : Graph α) : g.SameShape g.resetAll where
  size := Array.size_map
  label := fun u => by
    unfold label
    show ((g.vertices.map _)[u]?.map Vertex.label).getD _ = (g.vertices[u]?.map Vertex.label).getD _
    rw [Array.getElem?_map, Option.map_map]
    rfl
  dependencies := fun _ => rfl

/-! ## Equality -/

/-- **The vertices and the edges of a graph determine it**: what is kept per vertex is read off the
edges. -/
theorem ext_vertex? (hvertex : ∀ v, g.vertex? v = g'.vertex? v) (hedges : g.edges = g'.edges) :
    g = g' := by
  obtain ⟨vertices, edges, newest, hsize, _, _, hnewest⟩ := g
  obtain ⟨vertices', edges', newest', hsize', _, _, hnewest'⟩ := g'
  obtain rfl : vertices = vertices' := Array.ext_getElem? hvertex
  obtain rfl : edges = edges' := hedges
  have hsame : newest = newest' := by
    refine Array.ext (hsize.trans hsize'.symm) fun v hv hv' => ?_
    have hget := (hnewest v).trans (hnewest' v).symm
    simpa [Array.getD_eq_getD_getElem?, hv, hv'] using hget
  subst hsame
  rfl

/-- A change that leaves a payload as it is leaves the graph as it is. -/
theorem modifyPayload_eq_self {v : Nat} {f : α → α}
    (h : ∀ x, g.vertex? v = some x → f x.payload = x.payload) : g.modifyPayload v f = g := by
  refine ext_vertex? (fun u => ?_) rfl
  rw [modifyPayload, modifyVertex, vertex?, Array.getElem?_modify]
  split
  · rename_i huv
    subst huv
    cases hx : g.vertices[v]? with
    | none => exact hx.symm
    | some x => rw [Option.map_some, h x hx, vertex?, hx]
  · rfl

end Lifecycle.Graph
