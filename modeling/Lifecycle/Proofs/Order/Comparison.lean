import Lifecycle.Proofs.Order.Topological
import Mathlib

/-!
# Comparing vertices by order

Two vertices can be compared by the table that a verification returns, where one without an order comes
first, and by the orders that it commits to the graph, where one that is foreign compares to nothing.
For the vertices of a list that passes the two are one comparison, that of their depths
(`compare_of_verify`, `compareOrders_of_verify`).

* **`sorts_agree`**: so the list sorted by either is the list that topological sorting gives.
-/

namespace Lifecycle.Graph

variable {α : Type} {g : Graph α} {vs : List Nat} {o : Orders} {f : Nat → Nat} {a b : Nat}

/-- Listed vertices are compared by depth in the table. -/
theorem compare_of_verify (h : (g.verify vs).2 = .ok o) (hf : ∀ v ∈ vs, g.HasDepth v (f v))
    (ha : a ∈ vs) (hb : b ∈ vs) : o.compare a b = compare (f a) (f b) := by
  rw [Orders.compare, get?_of_verify h hf ha, get?_of_verify h hf hb]

/-- Vertices that have an order are compared by it. -/
theorem compareOrders_of_order? {m n : Nat} (ha : g.order? a = some m) (hb : g.order? b = some n) :
    g.compareOrders a b = some (compare m n) := by
  obtain ⟨x, hx, rfl⟩ := Option.map_eq_some_iff.mp ha
  obtain ⟨y, hy, rfl⟩ := Option.map_eq_some_iff.mp hb
  rw [compareOrders, hx, hy]
  rfl

/-- Listed vertices are compared by depth in the graph. -/
theorem compareOrders_of_verify (h : (g.verify vs).2 = .ok o)
    (hf : ∀ v ∈ vs, g.HasDepth v (f v)) (ha : a ∈ vs) (hb : b ∈ vs) :
    (g.verify vs).1.compareOrders a b = some (compare (f a) (f b)) :=
  compareOrders_of_order? (orders_of_verify h ha (hf a ha)).2 (orders_of_verify h hb (hf b hb)).2

theorem isLE_compare (m n : Nat) : (compare m n).isLE = decide (m ≤ n) := by
  rw [Bool.eq_iff_iff, Nat.isLE_compare, decide_eq_true_iff]

/-- **The three ways to sort by order agree.** If a list passes, the table that comes back and the orders
that are committed compare any two of its vertices alike. The list sorted stably by the one, the list
sorted stably by the other and the list sorted topologically are the same list, in which every vertex
stands after all that it depends on. -/
theorem sorts_agree {g' : Graph α} (h : g.verify vs = (g', .ok o)) :
    (∀ a ∈ vs, ∀ b ∈ vs, g'.compareOrders a b = some (o.compare a b)) ∧
    g.SortedBy o vs (o.sort vs) ∧
    g'.sortByCommitted vs = o.sort vs ∧
    g.sortInPlace vs = (g', o.sort vs, .ok o) := by
  have hok : (g.verify vs).2 = .ok o := by rw [h]
  rcases g.sortInPlace_cases vs with ⟨e, he, -⟩ | ⟨o', f, hf, hverify, hsort⟩
  · cases hok.symm.trans he
  · cases h.symm.trans hverify
    have htable : ∀ a ∈ vs, ∀ b ∈ vs, o.compare a b = compare (f a) (f b) := fun a ha b hb =>
      compare_of_verify hok hf ha hb
    have hcommitted : ∀ a ∈ vs, ∀ b ∈ vs,
        (vs.foldl (fun g v => g.setOrder v (f v)) g).compareOrders a b
          = some (compare (f a) (f b)) := fun a ha b hb => by
      have hcompare := compareOrders_of_verify hok hf ha hb
      rwa [h] at hcompare
    have hbyTable : o.sort vs = stableSort f vs :=
      mergeSort_congr fun a ha b hb => by rw [htable a ha b hb, isLE_compare]
    have hbyCommitted :
        (vs.foldl (fun g v => g.setOrder v (f v)) g).sortByCommitted vs = stableSort f vs :=
      mergeSort_congr fun a ha b hb => by
        rw [hcommitted a ha b hb, Option.getD_some, isLE_compare]
    refine ⟨fun a ha b hb => ?_, ?_, ?_, ?_⟩
    · rw [hcommitted a ha b hb, htable a ha b hb]
    · rw [hbyTable]
      exact sortedBy_stableSort hok hf
    · rw [hbyTable, hbyCommitted]
    · rw [hbyTable, hsort]

/-- The diamond with an old order at `b`, sorted from a list that repeats an entry. -/
theorem diamond_sorts_agree : ∃ g' o,
    (diamond.setOrder 1 9).verify [2, 0, 3, 1, 2] = (g', .ok o) ∧
    o.sort [2, 0, 3, 1, 2] = [3, 2, 1, 2, 0] ∧
    g'.sortByCommitted [2, 0, 3, 1, 2] = [3, 2, 1, 2, 0] ∧
    (diamond.setOrder 1 9).sortInPlace [2, 0, 3, 1, 2] = (g', [3, 2, 1, 2, 0], .ok o) := by
  have hok : ((diamond.setOrder 1 9).verify [2, 0, 3, 1, 2]).2
      = .ok ⟨#[some 2, some 1, some 1, some 0], by simp⟩ := by cbv
  have hcall : (diamond.setOrder 1 9).verify [2, 0, 3, 1, 2] = (_, .ok _) := Prod.ext rfl hok
  obtain ⟨-, -, hcommitted, hsort⟩ := sorts_agree hcall
  have hsorted : Orders.sort ⟨#[some 2, some 1, some 1, some 0], by simp⟩ [2, 0, 3, 1, 2]
      = [3, 2, 1, 2, 0] := by cbv
  rw [hsorted] at hcommitted hsort
  exact ⟨_, _, hcall, hsorted, hcommitted, hsort⟩

end Lifecycle.Graph
