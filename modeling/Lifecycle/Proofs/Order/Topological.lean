import Lifecycle.Proofs.Graph.Extension
import Lifecycle.Proofs.Order.Sorting
import Mathlib

/-!
# Topological sorting is stable

* `Graph.SortedBy`: a list sorted by a table of orders, with ties as they were and every vertex after
  all that it depends on.
* **`sortedBy_stableSort`**: a list sorted stably by depth is such a list, since depths fall along every
  edge.
* `sortInPlace_of_pairwise`: a list that is sorted by depth already stays as it is.
* **`sorts_topologically`**: so `Graph.sortInPlace` sorts its list topologically, does the rest as
  `Graph.verify` does, and a second call changes nothing more; `Graph.topologicalOrder` lists all
  vertices by order, then by handle.
-/

namespace Lifecycle.Graph

variable {α : Type} {g : Graph α} {f : Nat → Nat} {vs : List Nat}

/-- A list sorted by the orders of a table. -/
structure SortedBy (g : Graph α) (o : Orders) (vs sorted : List Nat) : Prop where
  /-- No entry is lost, added or repeated. -/
  perm : sorted.Perm vs
  /-- Every entry has an order, and the orders increase. -/
  increases : sorted.Pairwise fun a b => ∃ m n, o.get? a = some m ∧ o.get? b = some n ∧ m ≤ n
  /-- Entries of one order keep their places relative to each other. -/
  stable : ∀ k, sorted.filter (o.get? · == some k) = vs.filter (o.get? · == some k)
  /-- What a vertex depends on is listed, and each time before the vertex. -/
  dependencies_first : ∀ v ∈ vs, ∀ d, g.ReachesBelow v d →
    d ∈ sorted ∧ ∀ i j : Nat, sorted[i]? = some d → sorted[j]? = some v → i < j

/-! ## What sorting in place does -/

/-- **All that `sortInPlace` can do.** -/
theorem sortInPlace_cases (g : Graph α) (vs : List Nat) :
    (∃ e, (g.verify vs).2 = .error e ∧ g.sortInPlace vs = ((g.verify vs).1, vs, .error e)) ∨
    (∃ o, ∃ f : Nat → Nat, (∀ v ∈ vs, g.HasDepth v (f v)) ∧
      g.verify vs = (vs.foldl (fun g v => g.setOrder v (f v)) g, .ok o) ∧
      g.sortInPlace vs
        = (vs.foldl (fun g v => g.setOrder v (f v)) g, stableSort f vs, .ok o)) := by
  rcases g.topologicalSort_cases vs with ⟨e, he, hsort⟩ | ⟨o, f, hf, hverify, hsort⟩
  · exact Or.inl ⟨e, he, by rw [sortInPlace, hsort]⟩
  · exact Or.inr ⟨o, f, hf, hverify, by rw [sortInPlace, hsort]⟩

/-- A list that passes with some depths passes with a table of these. -/
theorem get?_of_verify {o : Orders} (h : (g.verify vs).2 = .ok o)
    (hf : ∀ v ∈ vs, g.HasDepth v (f v)) {v : Nat} (hv : v ∈ vs) : o.get? v = some (f v) :=
  (orders_of_verify h hv (hf v hv)).1

/-- **A list sorted stably by depth is sorted topologically.** -/
theorem sortedBy_stableSort {o : Orders} (h : (g.verify vs).2 = .ok o)
    (hf : ∀ v ∈ vs, g.HasDepth v (f v)) : g.SortedBy o vs (stableSort f vs) where
  perm := stableSort_perm f vs
  increases := by
    refine pairwise_stableSort.imp_of_mem fun {a b} ha hb hab => ?_
    exact ⟨f a, f b, get?_of_verify h hf (mem_stableSort.mp ha),
      get?_of_verify h hf (mem_stableSort.mp hb), hab⟩
  stable := fun k => by
    -- on the list the table and the depths single out the same entries
    have hsame : ∀ v ∈ vs, (o.get? v == some k) = (f v == k) := fun v hv => by
      rw [get?_of_verify h hf hv]
      rfl
    rw [List.filter_congr fun v hv => hsame v (mem_stableSort.mp hv), List.filter_congr hsame,
      filter_stableSort]
  dependencies_first := fun v hv d hd => by
    obtain ⟨hclosed, -⟩ := exists_depth_of_verify h
    have hmem : d ∈ vs := Reaches.mem_of_closed hclosed.dependency hd.to_reflTransGen hv
    obtain ⟨n, hn, hdepth⟩ := (hf v hv).reachesBelow hd
    have hlt : f d < f v := by
      rw [(hf d hmem).unique hdepth]
      exact hn
    exact ⟨mem_stableSort.mpr hmem, fun i j hi hj => lt_of_key_lt hi hj hlt⟩

/-! ## Sorting again -/

/-- A closed list that is sorted by depth stays as it is. -/
theorem sortInPlace_of_pairwise (hclosed : g.Closed vs) (hf : ∀ v ∈ vs, g.HasDepth v (f v))
    (hsorted : vs.Pairwise fun a b => f a ≤ f b) :
    g.sortInPlace vs = (vs.foldl (fun g v => g.setOrder v (f v)) g, vs,
      .ok (vs.foldl (fun o v => o.insert v (f v)) ∅)) := by
  have hpasses := verify_of_hasDepth hclosed hf
  rcases g.sortInPlace_cases vs with ⟨e, he, -⟩ | ⟨o, f', hf', hverify, hsort⟩
  · rw [hpasses] at he
    cases he
  · have hkept : stableSort f' vs = vs := by
      refine List.mergeSort_of_pairwise (hsorted.imp_of_mem fun {a b} ha hb hab => ?_)
      rw [(hf' a ha).unique (hf a ha), (hf' b hb).unique (hf b hb)]
      exact decide_eq_true hab
    obtain ⟨hgraph, htable⟩ := Prod.mk.inj (hverify.symm.trans hpasses)
    rw [hsort, hkept, hgraph, htable]

/-- Commits made once more change nothing. -/
theorem foldl_setOrder_again {us : List Nat} (h : ∀ v, v ∈ us ↔ v ∈ vs) :
    us.foldl (fun g v => g.setOrder v (f v)) (vs.foldl (fun g v => g.setOrder v (f v)) g)
      = vs.foldl (fun g v => g.setOrder v (f v)) g := by
  refine ext_vertex? (fun v => ?_) ?_
  · rw [vertex?_foldl_setOrder, vertex?_foldl_setOrder]
    by_cases hv : v ∈ vs
    · rw [if_pos ((h v).mpr hv), if_pos hv, Option.map_map]
      rfl
    · rw [if_neg fun hu => hv ((h v).mp hu)]
  · exact ((OnlyOrders.refl _ fun _ => True).foldl_setOrder fun _ _ => trivial).edges

/-- **A sorted list stays as it is when it is sorted again**, and so does the graph. -/
theorem sortInPlace_stableSort {o : Orders} (h : (g.verify vs).2 = .ok o)
    (hf : ∀ v ∈ vs, g.HasDepth v (f v)) :
    (vs.foldl (fun g v => g.setOrder v (f v)) g).sortInPlace (stableSort f vs)
      = (vs.foldl (fun g v => g.setOrder v (f v)) g, stableSort f vs, .ok o) := by
  obtain ⟨hclosed, -⟩ := exists_depth_of_verify h
  have honly : g.OnlyOrders (fun _ => True) (vs.foldl (fun g v => g.setOrder v (f v)) g) :=
    (OnlyOrders.refl g _).foldl_setOrder fun _ _ => trivial
  have hmem : ∀ v, v ∈ stableSort f vs ↔ v ∈ vs := fun _ => mem_stableSort
  have htable : o = vs.foldl (fun o v => o.insert v (f v)) ∅ := by
    rw [verify_of_hasDepth hclosed hf] at h
    exact (Except.ok.inj h).symm
  rw [sortInPlace_of_pairwise (hclosed.of_sameShape honly.sameShape hmem)
      (fun v hv => (hf v ((hmem v).mp hv)).congr honly.dependencies) pairwise_stableSort,
    foldl_setOrder_again hmem, foldl_insert_of_mem_iff hmem, htable]

/-! ## Both sorts -/

/-- All vertices sorted by depth stand by order, then by handle. -/
theorem pairwise_order?_stableSort_ids :
    (stableSort f g.ids).Pairwise fun a b => ∃ m n,
      (g.ids.foldl (fun g v => g.setOrder v (f v)) g).order? a = some m ∧
      (g.ids.foldl (fun g v => g.setOrder v (f v)) g).order? b = some n ∧
      (m < n ∨ m = n ∧ a < b) := by
  have horder : ∀ v ∈ stableSort f g.ids,
      (g.ids.foldl (fun g v => g.setOrder v (f v)) g).order? v = some (f v) := fun v hv => by
    have hmem : v ∈ g.ids := mem_stableSort.mp hv
    exact order?_foldl_setOrder_of_mem hmem (mem_ids.mp hmem)
  have hids : g.ids.Pairwise (· < ·) := List.pairwise_lt_range
  exact (pairwise_stableSort_lex hids).imp_of_mem fun {a b} ha hb hab =>
    ⟨f a, f b, horder a ha, horder b hb, hab⟩

/-- **Topological sorting is verification and a stable sort by order.** The graph after the call and its
result are those of the verification. A list that passes is sorted so that every vertex stands after all
that it depends on and ties stay as they were, and sorting it again changes nothing. All vertices
together are sorted by order, then by handle, each once. -/
theorem sorts_topologically (g : Graph α) :
    (∀ vs, (g.sortInPlace vs).1 = (g.verify vs).1 ∧ (g.sortInPlace vs).2.2 = (g.verify vs).2) ∧
    (∀ vs g' sorted o, g.sortInPlace vs = (g', sorted, .ok o) →
      g.SortedBy o vs sorted ∧ g'.sortInPlace sorted = (g', sorted, .ok o)) ∧
    (∀ g' sorted, g.topologicalOrder = (g', .ok sorted) →
      sorted.Perm g.ids ∧ sorted.Nodup ∧ sorted.Pairwise fun a b =>
        ∃ m n, g'.order? a = some m ∧ g'.order? b = some n ∧ (m < n ∨ m = n ∧ a < b)) := by
  refine ⟨fun vs => ?_, fun vs g' sorted o h => ?_, fun g' sorted h => ?_⟩
  · rcases g.sortInPlace_cases vs with ⟨e, he, hsort⟩ | ⟨o, f, -, hverify, hsort⟩
    · rw [hsort, he]
      exact ⟨rfl, rfl⟩
    · rw [hsort, hverify]
      exact ⟨rfl, rfl⟩
  · rcases g.sortInPlace_cases vs with ⟨e, -, hsort⟩ | ⟨o', f, hf, hverify, hsort⟩
    · cases hsort.symm.trans h
    · cases hsort.symm.trans h
      have hok : (g.verify vs).2 = .ok o := by rw [hverify]
      exact ⟨sortedBy_stableSort hok hf, sortInPlace_stableSort hok hf⟩
  · rcases g.topologicalOrder_cases with ⟨c, -, horder⟩ | ⟨f, -, horder⟩
    · rw [h] at horder
      cases horder
    · cases horder.symm.trans h
      exact ⟨stableSort_perm f g.ids, (stableSort_perm f g.ids).nodup_iff.mpr List.nodup_range,
        pairwise_order?_stableSort_ids⟩

/-- The diamond sorted from a list that starts in the middle and repeats an entry: `c`, listed first,
stays before `b`. -/
theorem diamond_sorted : ∃ g' o, diamond.sortInPlace [2, 0, 3, 1, 2] = (g', [3, 2, 1, 2, 0], .ok o) ∧
    diamond.SortedBy o [2, 0, 3, 1, 2] [3, 2, 1, 2, 0] ∧
    g'.sortInPlace [3, 2, 1, 2, 0] = (g', [3, 2, 1, 2, 0], .ok o) ∧
    diamond.topologicalOrder.2 = .ok [3, 1, 2, 0] ∧ [3, 1, 2, 0].Perm diamond.ids := by
  obtain ⟨-, hlist, hall⟩ := sorts_topologically diamond
  have hsort : (diamond.sortInPlace [2, 0, 3, 1, 2]).2
      = ([3, 2, 1, 2, 0], .ok ⟨#[some 2, some 1, some 1, some 0], by simp⟩) := by cbv
  have horder : diamond.topologicalOrder.2 = .ok [3, 1, 2, 0] := by cbv
  have hcall : diamond.sortInPlace [2, 0, 3, 1, 2] = (_, _, .ok _) := Prod.ext rfl hsort
  obtain ⟨hsorted, hagain⟩ := hlist _ _ _ _ hcall
  exact ⟨_, _, hcall, hsorted, hagain, horder, (hall _ _ (Prod.ext rfl horder)).1⟩

end Lifecycle.Graph
