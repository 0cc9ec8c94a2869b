import Lifecycle.Graph.Error
import Mathlib

/-!
# Building a graph

What a graph reads after a vertex or an edge was added.

* `addNew` adds an entry to the end of a list unless the list has it. Dropping repeats is adding the
  entries one by one (**`eraseDups_concat`**).
* **`dependencies_link`**: a new edge adds its target to the dependencies of its source, once, and
  leaves those of other vertices alone; a recorded one changes nothing (`link_of_mem`).
  `addDependency_cases` says when there is one.
* `vertex?_addVertex`: a new vertex gets the next handle and changes no other.
* `edgeCount_eq_sum`: the edges are the dependencies of all vertices together.
-/

namespace Lifecycle

/-! ## Lists without repeats -/

section AddNew

variable {β γ : Type} [DecidableEq β] [DecidableEq γ]

/-- Add an entry to the end of a list unless the list has it. -/
def addNew (xs : List β) (x : β) : List β := if x ∈ xs then xs else xs ++ [x]

theorem addNew_of_mem {xs : List β} {x : β} (h : x ∈ xs) : addNew xs x = xs := if_pos h

theorem addNew_of_not_mem {xs : List β} {x : β} (h : x ∉ xs) : addNew xs x = xs ++ [x] := if_neg h

@[simp] theorem mem_addNew {xs : List β} {x y : β} : y ∈ addNew xs x ↔ y ∈ xs ∨ y = x := by
  by_cases h : x ∈ xs
  · rw [addNew_of_mem h]
    constructor
    · exact Or.inl
    · rintro (hy | rfl)
      · exact hy
      · exact h
  · rw [addNew_of_not_mem h, List.mem_append, List.mem_singleton]

theorem mem_foldl_addNew {y : β} :
    ∀ {xs ys : List β}, y ∈ xs.foldl addNew ys ↔ y ∈ ys ∨ y ∈ xs
  | [], _ => by simp
  | x :: xs, ys => by
    rw [List.foldl_cons, mem_foldl_addNew, mem_addNew, List.mem_cons, or_assoc]

/-- Entries that a list has are not added to it. -/
theorem foldl_addNew_of_subset :
    ∀ {xs ys : List β}, xs ⊆ ys → xs.foldl addNew ys = ys
  | [], _, _ => rfl
  | x :: xs, ys, h => by
    rw [List.foldl_cons, addNew_of_mem (h List.mem_cons_self)]
    exact foldl_addNew_of_subset fun y hy => h (List.mem_cons_of_mem x hy)

theorem nodup_addNew {xs : List β} (h : xs.Nodup) (x : β) : (addNew xs x).Nodup := by
  by_cases hx : x ∈ xs
  · rw [addNew_of_mem hx]
    exact h
  · rw [addNew_of_not_mem hx, ← List.concat_eq_append, List.nodup_concat]
    exact ⟨hx, h⟩

/-- What stands in a list stays where it is. -/
theorem getElem?_addNew {xs : List β} {x y : β} {i : Nat} (h : xs[i]? = some y) :
    (addNew xs x)[i]? = some y := by
  by_cases hx : x ∈ xs
  · rw [addNew_of_mem hx]
    exact h
  · obtain ⟨hlt, -⟩ := List.getElem?_eq_some_iff.mp h
    rw [addNew_of_not_mem hx, List.getElem?_append_left hlt]
    exact h

theorem map_addNew {f : β → γ} {xs : List β} {x : β} (hf : ∀ y ∈ xs, f y = f x → y = x) :
    (addNew xs x).map f = addNew (xs.map f) (f x) := by
  by_cases hx : x ∈ xs
  · rw [addNew_of_mem hx, addNew_of_mem (List.mem_map_of_mem hx)]
  · have hfx : f x ∉ xs.map f := fun hmem => by
      obtain ⟨y, hy, hyx⟩ := List.mem_map.mp hmem
      exact hx (hf y hy hyx ▸ hy)
    rw [addNew_of_not_mem hx, addNew_of_not_mem hfx, List.map_append]
    rfl

/-- **One more entry, repeats dropped.** -/
theorem eraseDups_concat (xs : List β) (x : β) : (xs ++ [x]).eraseDups = addNew xs.eraseDups x := by
  rw [List.eraseDups_append]
  by_cases hx : x ∈ xs
  · rw [addNew_of_mem (List.mem_eraseDups.mpr hx)]
    simp [List.removeAll, hx]
  · have hkeep : [x].removeAll xs = [x] := by simp [List.removeAll, hx]
    rw [addNew_of_not_mem fun h => hx (List.mem_eraseDups.mp h), hkeep]
    rfl

/-- Dropping repeats is adding the entries one by one. -/
theorem foldl_addNew_nil (xs : List β) : xs.foldl addNew [] = xs.eraseDups := by
  induction xs using List.reverseRecOn with
  | nil => rfl
  | append_singleton xs x ih => rw [List.foldl_concat, ih, eraseDups_concat]

theorem nodup_eraseDups (xs : List β) : xs.eraseDups.Nodup := by
  induction xs using List.reverseRecOn with
  | nil => exact List.nodup_nil
  | append_singleton xs x ih =>
    rw [eraseDups_concat]
    exact nodup_addNew ih x

/-- A list without repeats has none to drop. -/
theorem eraseDups_of_nodup {xs : List β} (h : xs.Nodup) : xs.eraseDups = xs := by
  induction xs using List.reverseRecOn with
  | nil => rfl
  | append_singleton xs x ih =>
    rw [← List.concat_eq_append, List.nodup_concat] at h
    rw [eraseDups_concat, ih h.2, addNew_of_not_mem h.1]

/-- The entries of a second list are added one by one. -/
theorem eraseDups_append_eq_foldl (xs ys : List β) :
    (xs ++ ys).eraseDups = ys.foldl addNew xs.eraseDups := by
  rw [← foldl_addNew_nil, List.foldl_append, foldl_addNew_nil]

end AddNew

namespace Graph

variable {α : Type} {g : Graph α}

/-! ## Edges -/

/-- An edge that is recorded is not recorded again. -/
theorem link_of_mem {a b : Nat} (h : b ∈ g.dependencies a) : g.link a b = g := by
  have hnewest : b ∈ g.newest.getD a [] := mem_newestFirst.mpr h
  unfold link
  exact dif_neg fun hnew => hnew.2.2 hnewest

/-- **A new edge adds its target to the dependencies of its source.** -/
theorem dependencies_link {a b : Nat} (ha : a < g.size) (hb : b < g.size) (v : Nat) :
    (g.link a b).dependencies v
      = if a = v then addNew (g.dependencies v) b else g.dependencies v := by
  have hnewest : b ∈ g.newest.getD a [] ↔ b ∈ g.dependencies a := mem_newestFirst
  by_cases hmem : b ∈ g.dependencies a
  · rw [link_of_mem hmem]
    split
    · rename_i hv
      subst hv
      exact (addNew_of_mem hmem).symm
    · rfl
  · have hedges : (g.link a b).edges = g.edges.push (a, b) := by
      unfold link
      rw [dif_pos ⟨ha, hb, fun h => hmem (hnewest.mp h)⟩]
    rw [dependencies_eq, dependencies_eq, hedges, Array.toList_push, targetsOf_append]
    split
    · rename_i hv
      subst hv
      rw [← dependencies_eq, addNew_of_not_mem hmem]
      simp [targetsOf]
    · rename_i hv
      simp [targetsOf, hv]

/-- What has a dependency is a vertex of the graph. -/
theorem lt_of_mem_dependencies {v d : Nat} (h : d ∈ g.dependencies v) : v < g.size :=
  (g.edge_lt (v, d) (mem_dependencies.mp h)).1

/-- An edge between two vertices of the graph is not refused. -/
theorem addDependency_eq {a b : Nat} (ha : a < g.size) (hb : b < g.size) :
    g.addDependency a b = (g.link a b, .ok ()) := by
  have hcheck : g.checkEdge a b = .ok () := by
    unfold checkEdge contains
    rw [decide_eq_true ha, decide_eq_true hb]
    rfl
  unfold addDependency
  rw [hcheck]

theorem vertices_link (g : Graph α) (a b : Nat) : (g.link a b).vertices = g.vertices := by
  unfold link
  split <;> rfl

/-- **All that `addDependency` can do.** -/
theorem addDependency_cases (g : Graph α) (a b : Nat) :
    (a < g.size ∧ b < g.size ∧ g.addDependency a b = (g.link a b, .ok ())) ∨
    ((g.contains a = false ∨ g.contains b = false) ∧ g.addDependency a b
      = (g, .error (.vertexNotFound (if g.contains a = true then b else a)))) := by
  cases ha : g.contains a with
  | false => exact Or.inr ⟨Or.inl rfl, by simp [addDependency, checkEdge, ha]⟩
  | true =>
    cases hb : g.contains b with
    | false => exact Or.inr ⟨Or.inr rfl, by simp [addDependency, checkEdge, ha, hb]⟩
    | true =>
      have ha' : a < g.size := of_decide_eq_true ha
      have hb' : b < g.size := of_decide_eq_true hb
      exact Or.inl ⟨ha', hb', addDependency_eq ha' hb'⟩

/-- Each edge is counted at its source. -/
theorem length_eq_sum_targetsOf {n : Nat} :
    ∀ {es : List (Nat × Nat)}, (∀ e ∈ es, e.1 < n) →
      es.length = ∑ v ∈ Finset.range n, (targetsOf es v).length
  | [], _ => by simp
  | e :: es, h => by
    have hcons : ∀ v, (targetsOf (e :: es) v).length
        = (if e.1 = v then 1 else 0) + (targetsOf es v).length := fun v => by
      by_cases hv : e.1 = v <;> simp [targetsOf, hv, Nat.add_comm]
    have hone : (∑ v ∈ Finset.range n, if e.1 = v then 1 else 0) = 1 := by
      rw [Finset.sum_ite_eq, if_pos (Finset.mem_range.mpr (h e List.mem_cons_self))]
    have hrest := length_eq_sum_targetsOf fun e' he' => h e' (List.mem_cons_of_mem e he')
    simp only [hcons, Finset.sum_add_distrib, hone, ← hrest, List.length_cons]
    omega

/-- **There are as many edges as dependencies** of all vertices together. -/
theorem edgeCount_eq_sum (g : Graph α) :
    g.edgeCount = ∑ v ∈ Finset.range g.size, (g.dependencies v).length := by
  simp only [dependencies_eq]
  exact length_eq_sum_targetsOf fun e he => (g.edge_lt e he).1

/-! ## Vertices -/

/-- A new vertex gets the next handle, and no other changes. -/
theorem vertex?_addVertex (g : Graph α) (name : String) (payload : α) (v : Nat) :
    (g.addVertex name payload).vertex? v
      = if v = g.size then some { label := name, payload := payload } else g.vertex? v :=
  Array.getElem?_push

theorem label_addVertex_of_lt {v : Nat} (hv : v < g.size) (name : String) (payload : α) :
    (g.addVertex name payload).label v = g.label v := by
  unfold label
  rw [vertex?_addVertex, if_neg (Nat.ne_of_lt hv)]

theorem label_addVertex_self (g : Graph α) (name : String) (payload : α) :
    (g.addVertex name payload).label g.size = name := by
  unfold label
  rw [vertex?_addVertex, if_pos rfl]
  rfl

theorem ids_addVertex (g : Graph α) (name : String) (payload : α) :
    (g.addVertex name payload).ids = g.ids ++ [g.size] := by
  unfold ids
  rw [size_addVertex, List.range_succ]

end Graph

end Lifecycle
