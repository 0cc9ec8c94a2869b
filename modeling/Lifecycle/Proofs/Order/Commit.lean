import Lifecycle.Graph.Basic
import Lifecycle.Order.Basic
import Mathlib

/-!
# Committing orders

A verification ends by giving the listed vertices their orders, one after the other, in the graph and
in a table. Both come out the same whatever the order and the repetitions of the list.

* **`vertex?_foldl_setOrder`**, **`order?_foldl_setOrder`**: the committed orders change on the list
  alone, and nothing but orders changes.
* **`Orders.get?_foldl_insert`**: the table assigns orders on the list alone, and it has as many
  entries as the list has different ones (`Orders.size_eq_card`).
-/

namespace Lifecycle

namespace Graph

variable {α : Type} {g : Graph α}

theorem vertex?_setOrder {u v k : Nat} :
    (g.setOrder v k).vertex? u
      = if v = u then (g.vertex? u).map fun x => { x with order := k } else g.vertex? u :=
  Array.getElem?_modify

/-- **A commit to a list replaces the orders of the list**, and nothing else of any vertex. -/
theorem vertex?_foldl_setOrder {f : Nat → Nat} {u : Nat} :
    ∀ {vs : List Nat} {g : Graph α},
      (vs.foldl (fun g v => g.setOrder v (f v)) g).vertex? u
        = if u ∈ vs then (g.vertex? u).map fun x => { x with order := f u } else g.vertex? u
  | [], _ => by simp
  | v :: vs, g => by
    rw [List.foldl_cons, vertex?_foldl_setOrder, vertex?_setOrder]
    by_cases hv : v = u
    · subst hv
      cases g.vertex? v <;> simp
    · simp [hv, Ne.symm hv]

/-- **The orders committed to a list** are those of the list, and no other changes. -/
theorem order?_foldl_setOrder {f : Nat → Nat} {u : Nat} {vs : List Nat} :
    (vs.foldl (fun g v => g.setOrder v (f v)) g).order? u
      = if u ∈ vs then (g.order? u).map fun _ => f u else g.order? u := by
  unfold order?
  rw [vertex?_foldl_setOrder]
  split
  · rw [Option.map_map, Option.map_map]
    rfl
  · rfl

/-- A vertex of the graph has an order. -/
theorem exists_order? {v : Nat} (hv : v < g.size) : ∃ k, g.order? v = some k := by
  have hget : g.vertices[v]? = some g.vertices[v] := Array.getElem?_eq_getElem hv
  exact ⟨_, by rw [order?, vertex?, hget]; rfl⟩

theorem lt_of_order? {v k : Nat} (h : g.order? v = some k) : v < g.size := by
  obtain ⟨x, hx, -⟩ := Option.map_eq_some_iff.mp h
  exact (Array.getElem?_eq_some_iff.mp hx).1

theorem order?_foldl_setOrder_of_mem {f : Nat → Nat} {vs : List Nat} {v : Nat} (hv : v ∈ vs)
    (hlt : v < g.size) : (vs.foldl (fun g v => g.setOrder v (f v)) g).order? v = some (f v) := by
  obtain ⟨k, hk⟩ := exists_order? hlt
  rw [order?_foldl_setOrder, if_pos hv, hk]
  rfl

end Graph

namespace Orders

/-- **The orders inserted for a list** are those of the list. -/
theorem get?_foldl_insert {f : Nat → Nat} {u : Nat} :
    ∀ {vs : List Nat} {o : Orders},
      (vs.foldl (fun o v => o.insert v (f v)) o).get? u = if u ∈ vs then some (f u) else o.get? u
  | [], _ => by simp
  | v :: vs, o => by
    rw [List.foldl_cons, get?_foldl_insert, get?_insert]
    by_cases hv : v = u
    · subst hv
      simp
    · simp [hv, Ne.symm hv]

theorem map_fst_filterMap_sublist :
    ∀ xs : List (Option Nat × Nat),
      ((xs.filterMap fun (slot, v) => slot.map (v, ·)).map Prod.fst).Sublist (xs.map Prod.snd)
  | [] => List.Sublist.refl []
  | (none, _) :: xs => (map_fst_filterMap_sublist xs).cons _
  | (some _, _) :: xs => (map_fst_filterMap_sublist xs).cons_cons _

/-- A table lists each handle once. -/
theorem nodup_map_fst_toList (o : Orders) : (o.toList.map Prod.fst).Nodup :=
  (map_fst_filterMap_sublist _).nodup (List.nodup_zipIdx_map_snd _)

/-- The number of entries of a table is that of the handles it knows. -/
theorem size_eq_card {o : Orders} {vs : List Nat} (h : ∀ v, v ∈ vs ↔ ∃ k, o.get? v = some k) :
    o.size = vs.toFinset.card := by
  have hset : (o.toList.map Prod.fst).toFinset = vs.toFinset := by
    ext v
    rw [List.mem_toFinset, List.mem_toFinset, List.mem_map, h v]
    constructor
    · rintro ⟨⟨v, k⟩, hmem, rfl⟩
      exact ⟨k, mem_toList.mp hmem⟩
    · rintro ⟨k, hk⟩
      exact ⟨(v, k), mem_toList.mpr hk, rfl⟩
  rw [← hset, List.toFinset_card_of_nodup o.nodup_map_fst_toList, List.length_map]
  rfl

/-- A table that assigns orders on a list alone has as many entries as the list has different ones. -/
theorem size_of_get? {o : Orders} {vs : List Nat} {f : Nat → Nat}
    (h : ∀ v, o.get? v = if v ∈ vs then some (f v) else none) : o.size = vs.toFinset.card := by
  refine size_eq_card fun v => ?_
  rw [h]
  by_cases hv : v ∈ vs <;> simp [hv]

end Orders

end Lifecycle
