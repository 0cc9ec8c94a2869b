/-!
# Dependency graphs

A `Graph α` holds vertices and "depends on" edges. A vertex is known by its handle, the number of
vertices inserted before it, and never by its label: two vertices called `logger` are two vertices.
An edge `(a, b)` reads "`a` needs `b` ready first".

The edges are kept once in order of insertion (`edges`) and once per vertex (`newest`), so that
the dependencies of a vertex are read without a search. The structure carries what ties the two
together, so every graph has these properties and no statement has to assume them:

* **`edge_lt`**: both ends of an edge are vertices of the graph;
* **`edges_nodup`**: no edge is recorded twice;
* **`newest_getD`**: `newest` is the list of targets of the edges of that vertex, newest first.
-/

namespace Lifecycle

/-- A vertex: a label for messages, the value it carries, and the order last committed to it
(0 until a verification succeeds). -/
structure Vertex (α : Type) where
  label : String
  payload : α
  order : Nat := 0
  deriving Repr, DecidableEq, Inhabited

/-- The targets of the edges that leave `v`, in the order of `edges`. -/
def targetsOf (edges : List (Nat × Nat)) (v : Nat) : List Nat :=
  edges.filterMap fun e => if e.1 = v then some e.2 else none

@[simp] theorem targetsOf_nil (v : Nat) : targetsOf [] v = [] := rfl

theorem targetsOf_append (es fs : List (Nat × Nat)) (v : Nat) :
    targetsOf (es ++ fs) v = targetsOf es v ++ targetsOf fs v := List.filterMap_append

@[simp] theorem mem_targetsOf {es : List (Nat × Nat)} {v d : Nat} :
    d ∈ targetsOf es v ↔ (v, d) ∈ es := by
  simp only [targetsOf, List.mem_filterMap, Option.ite_none_right_eq_some, Option.some.injEq]
  constructor
  · rintro ⟨⟨a, b⟩, h, rfl, rfl⟩; exact h
  · intro h; exact ⟨(v, d), h, rfl, rfl⟩

theorem nodup_targetsOf {es : List (Nat × Nat)} (h : es.Nodup) (v : Nat) :
    (targetsOf es v).Nodup := by
  induction es with
  | nil => exact List.nodup_nil
  | cons e es ih =>
    obtain ⟨he, hes⟩ := List.nodup_cons.mp h
    by_cases hv : e.1 = v
    · have hcons : targetsOf (e :: es) v = e.2 :: targetsOf es v := by simp [targetsOf, hv]
      rw [hcons, List.nodup_cons]
      refine ⟨fun hm => he ?_, ih hes⟩
      rw [mem_targetsOf] at hm
      simpa [← hv] using hm
    · have hcons : targetsOf (e :: es) v = targetsOf es v := by simp [targetsOf, hv]
      rw [hcons]; exact ih hes

/-- A dependency graph: vertices in order of insertion and the edges between them. -/
structure Graph (α : Type) where
  vertices : Array (Vertex α)
  edges : Array (Nat × Nat)
  newest : Array (List Nat)
  newest_size : newest.size = vertices.size
  edge_lt : ∀ e ∈ edges.toList, e.1 < vertices.size ∧ e.2 < vertices.size
  edges_nodup : edges.toList.Nodup
  newest_getD : ∀ v, newest.getD v [] = (targetsOf edges.toList v).reverse

namespace Graph

variable {α : Type}

/-- The graph without vertices. -/
def empty : Graph α where
  vertices := #[]
  edges := #[]
  newest := #[]
  newest_size := rfl
  edge_lt := fun _ h => nomatch h
  edges_nodup := List.nodup_nil
  newest_getD := fun _ => rfl

instance : Inhabited (Graph α) := ⟨empty⟩

/-! ## Reading -/

/-- The number of vertices. -/
def size (g : Graph α) : Nat := g.vertices.size

/-- Whether there is no vertex. -/
def isEmpty (g : Graph α) : Bool := g.size == 0

/-- The number of edges. -/
def edgeCount (g : Graph α) : Nat := g.edges.size

/-- Whether `v` is a vertex of this graph. Any other handle is foreign to it. -/
def contains (g : Graph α) (v : Nat) : Bool := decide (v < g.size)

/-- The vertex behind a handle, if it is not foreign. -/
def vertex? (g : Graph α) (v : Nat) : Option (Vertex α) := g.vertices[v]?

/-- The label of a vertex, and `<unknown>` for a foreign handle. -/
def label (g : Graph α) (v : Nat) : String := ((g.vertex? v).map Vertex.label).getD "<unknown>"

/-- The order committed to a vertex. -/
def order? (g : Graph α) (v : Nat) : Option Nat := (g.vertex? v).map Vertex.order

/-- All handles, in order of insertion. -/
def ids (g : Graph α) : List Nat := List.range g.size

theorem mem_ids {g : Graph α} {v : Nat} : v ∈ g.ids ↔ v < g.size := List.mem_range

/-- The first vertex with that label. -/
def find? (g : Graph α) (name : String) : Option Nat := g.vertices.findIdx? (·.label == name)

/-- The direct dependencies of `v`, newest first. -/
def newestFirst (g : Graph α) (v : Nat) : List Nat := g.newest.getD v []

/-- The direct dependencies of `v`, in the order they were added. -/
def dependencies (g : Graph α) (v : Nat) : List Nat := (g.newestFirst v).reverse

/-- The labels of the direct dependencies of `v`. -/
def dependencyLabels (g : Graph α) (v : Nat) : List String := (g.dependencies v).map g.label

/-- The dependencies of a vertex are the targets of its edges. -/
theorem dependencies_eq (g : Graph α) (v : Nat) :
    g.dependencies v = targetsOf g.edges.toList v := by
  rw [dependencies, newestFirst, g.newest_getD, List.reverse_reverse]

@[simp] theorem mem_newestFirst {g : Graph α} {v d : Nat} :
    d ∈ g.newestFirst v ↔ d ∈ g.dependencies v := List.mem_reverse.symm

theorem mem_dependencies {g : Graph α} {v d : Nat} :
    d ∈ g.dependencies v ↔ (v, d) ∈ g.edges.toList := by
  rw [dependencies_eq, mem_targetsOf]

/-- A dependency is a vertex of the graph. -/
theorem dependency_lt {g : Graph α} {v d : Nat} (h : d ∈ g.dependencies v) : d < g.size :=
  (g.edge_lt (v, d) (mem_dependencies.mp h)).2

/-- No dependency of a vertex is recorded twice. -/
theorem nodup_dependencies (g : Graph α) (v : Nat) : (g.dependencies v).Nodup := by
  rw [dependencies_eq]; exact nodup_targetsOf g.edges_nodup v

/-! ## Building -/

/-- Add a vertex. Its handle is the size of the graph before. -/
def addVertex (g : Graph α) (name : String) (payload : α) : Graph α where
  vertices := g.vertices.push { label := name, payload := payload }
  edges := g.edges
  newest := g.newest.push []
  newest_size := by simp [g.newest_size]
  edge_lt := fun e he => by
    rw [Array.size_push]
    exact ⟨Nat.lt_succ_of_lt (g.edge_lt e he).1, Nat.lt_succ_of_lt (g.edge_lt e he).2⟩
  edges_nodup := g.edges_nodup
  newest_getD := fun v => by
    rw [← g.newest_getD v]
    simp only [Array.getD_eq_getD_getElem?, Array.getElem?_push]
    split
    · rename_i h; subst h; simp
    · rfl

/-- How an edge reads between its two ends. -/
def edgeText : String := "depends on"

/-- Record that `a` depends on `b`. A repeated edge and one with a foreign end leave the graph
unchanged. -/
def link (g : Graph α) (a b : Nat) : Graph α :=
  if h : a < g.vertices.size ∧ b < g.vertices.size ∧ b ∉ g.newest.getD a [] then
    { vertices := g.vertices
      edges := g.edges.push (a, b)
      newest := g.newest.modify a (b :: ·)
      newest_size := by simp [g.newest_size]
      edge_lt := fun e he => by
        simp only [Array.toList_push, List.mem_append, List.mem_singleton] at he
        rcases he with he | rfl
        · exact g.edge_lt e he
        · exact ⟨h.1, h.2.1⟩
      edges_nodup := by
        rw [Array.toList_push, List.nodup_append]
        refine ⟨g.edges_nodup, by simp, ?_⟩
        intro x hx y hy hxy
        rw [List.mem_singleton] at hy
        subst hxy hy
        exact h.2.2 (by rw [g.newest_getD]; simpa using hx)
      newest_getD := fun v => by
        rw [Array.toList_push, targetsOf_append, List.reverse_append, ← g.newest_getD v]
        by_cases hv : a = v
        · subst hv
          have : a < g.newest.size := by rw [g.newest_size]; exact h.1
          simp [targetsOf, Array.getD_eq_getD_getElem?, Array.getElem_modify, this]
        · simp [targetsOf, Array.getD_eq_getD_getElem?, Array.getElem?_modify, hv] }
  else g

/-- Replace the vertex behind a handle. A foreign handle changes nothing. -/
def modifyVertex (g : Graph α) (v : Nat) (f : Vertex α → Vertex α) : Graph α where
  vertices := g.vertices.modify v f
  edges := g.edges
  newest := g.newest
  newest_size := by simp [g.newest_size]
  edge_lt := by simpa using g.edge_lt
  edges_nodup := g.edges_nodup
  newest_getD := g.newest_getD

/-- Change the value a vertex carries. -/
def modifyPayload (g : Graph α) (v : Nat) (f : α → α) : Graph α :=
  g.modifyVertex v fun x => { x with payload := f x.payload }

/-- Commit an order to a vertex. -/
def setOrder (g : Graph α) (v : Nat) (order : Nat) : Graph α :=
  g.modifyVertex v fun x => { x with order := order }

/-- Clear the order of a vertex back to 0. -/
def reset (g : Graph α) (v : Nat) : Graph α := g.setOrder v 0

/-- Clear the order of each listed vertex; foreign handles are ignored. -/
def resetEach (g : Graph α) (vs : List Nat) : Graph α := vs.foldl reset g

/-- Clear the order of every vertex. -/
def resetAll (g : Graph α) : Graph α where
  vertices := g.vertices.map fun x => { x with order := 0 }
  edges := g.edges
  newest := g.newest
  newest_size := by simp [g.newest_size]
  edge_lt := by simpa using g.edge_lt
  edges_nodup := g.edges_nodup
  newest_getD := g.newest_getD

@[simp] theorem size_addVertex (g : Graph α) (name : String) (payload : α) :
    (g.addVertex name payload).size = g.size + 1 := by simp [size, addVertex]

@[simp] theorem size_link (g : Graph α) (a b : Nat) : (g.link a b).size = g.size := by
  unfold link; split <;> rfl

@[simp] theorem size_modifyVertex (g : Graph α) (v : Nat) (f : Vertex α → Vertex α) :
    (g.modifyVertex v f).size = g.size := by simp [size, modifyVertex]

@[simp] theorem size_modifyPayload (g : Graph α) (v : Nat) (f : α → α) :
    (g.modifyPayload v f).size = g.size := size_modifyVertex ..

@[simp] theorem size_setOrder (g : Graph α) (v : Nat) (k : Nat) :
    (g.setOrder v k).size = g.size := size_modifyVertex ..

@[simp] theorem dependencies_modifyVertex (g : Graph α) (v w : Nat)
    (f : Vertex α → Vertex α) : (g.modifyVertex v f).dependencies w = g.dependencies w := rfl

@[simp] theorem dependencies_addVertex (g : Graph α) (name : String) (payload : α) (v : Nat) :
    (g.addVertex name payload).dependencies v = g.dependencies v := by
  rw [dependencies_eq, dependencies_eq]; rfl

end Graph

end Lifecycle
