import Lifecycle.Proofs.Order.Root
import Lifecycle.Proofs.Order.Whole
import Mathlib

/-!
# Acyclic graphs

One pass over all vertices, a pass for each vertex and a search for what is below each edge all decide
whether a graph has a cycle.

* `acyclic_iff_hasDepth`: a graph is acyclic iff its vertices have depths.
* **`acyclicity_is_decided_alike`**: each way to ask succeeds iff the graph is acyclic, and all of them
  give a vertex of an acyclic graph its depth (`Acyclic.orderedAlike`).
-/

namespace Lifecycle.Graph

variable {α : Type} {g : Graph α}

/-- **A graph is acyclic iff its vertices have depths.** -/
theorem acyclic_iff_hasDepth : g.Acyclic ↔ ∀ v ∈ g.ids, ∃ k, g.HasDepth v k := by
  constructor
  · intro h v hv
    obtain ⟨o, ho⟩ := exists_verify_ids_iff_acyclic.mpr h
    obtain ⟨k, hk, -⟩ := get?_of_verify_ids ho (mem_ids.mp hv)
    exact ⟨k, hk⟩
  · intro h
    exact acyclic_of_hasDepth fun v hv => h v (mem_ids.mpr hv)

/-! ## Ways to ask -/

theorem Genuine.not_acyclic {starts : List Nat} {c : Cycle} (h : g.Genuine starts c) :
    ¬ g.Acyclic := by
  obtain ⟨v, rest, hvertices, hn, hp, -⟩ := h
  rw [hvertices] at hp
  exact Chain.IsCycle.not_acyclic ⟨v, rest, rfl, hn, hp⟩

theorem exists_topologicalOrder_iff_acyclic :
    (∃ sorted, g.topologicalOrder.2 = .ok sorted) ↔ g.Acyclic := by
  rcases g.topologicalOrder_cases with ⟨c, hc, horder⟩ | ⟨f, hf, horder⟩
  · simp [horder, hc.not_acyclic]
  · simp [horder, acyclic_iff_hasDepth.mpr fun v hv => ⟨f v, hf v hv⟩]

/-- The vertices may be listed in any order. -/
theorem exists_verify_perm_iff_acyclic {vs : List Nat} (hvs : vs.Perm g.ids) :
    (∃ o, (g.verify vs).2 = .ok o) ↔ g.Acyclic := by
  have hclosed : g.Closed vs := g.closed_ids.of_sameShape (.refl g) fun _ => hvs.mem_iff
  rw [exists_verify_eq_ok_iff, findSome?_cycleFrom?_eq_none, acyclic_iff_hasDepth]
  simp only [hclosed, true_and, hvs.mem_iff]

theorem exists_resolveOrder_iff_hasDepth {v : Nat} (hv : v ∈ g.ids) :
    (∃ k, (g.resolveOrder v).2 = .ok k) ↔ ∃ k, g.HasDepth v k :=
  exists_congr fun _ => ⟨hasDepth_of_resolveOrder, resolveOrder_of_hasDepth (mem_ids.mp hv)⟩

/-- A graph is acyclic iff no vertex lies on or below one of its dependencies. -/
theorem acyclic_iff_transitiveClosure :
    g.Acyclic ↔ ∀ v ∈ g.ids, ∀ d ∈ g.dependencies v,
      ∃ below, g.transitiveClosure d = .ok below ∧ v ∉ below := by
  constructor
  · intro h v _ d hd
    have hlt : d < g.size := dependency_lt hd
    refine ⟨g.preorder d, transitiveClosure_of_lt hlt, ?_⟩
    rw [mem_preorder_iff hlt]
    exact fun hr => h v (.head' hd hr)
  · intro h v hv
    obtain ⟨d, hd, hr⟩ := Relation.TransGen.head'_iff.mp hv
    obtain ⟨below, hbelow, hnot⟩ := h v (mem_ids.mpr (lt_of_mem_dependencies hd)) d hd
    exact hnot ((mem_transitiveClosure_iff hbelow).mpr hr)

/-! ## Orders -/

/-- Every call that gives the vertex `v` an order gives it the order `k`; `vs` lists all vertices. -/
structure OrderedAlike (g : Graph α) (vs : List Nat) (v k : Nat) : Prop where
  /-- The order committed when all vertices are sorted. -/
  sorted : g.topologicalOrder.1.order? v = some k
  /-- The order when all vertices are verified, in the table and in the graph. -/
  listed : ∃ o, (g.verify vs).2 = .ok o ∧ o.get? v = some k ∧ (g.verify vs).1.order? v = some k
  /-- The order that resolving the vertex returns. -/
  resolved : (g.resolveOrder v).2 = .ok k
  /-- The order committed when a vertex on or above it is resolved. -/
  resolved_from : ∀ u below, g.transitiveClosure u = .ok below → v ∈ below →
    (g.resolveOrder u).1.order? v = some k
  /-- The order when a vertex on or above it is verified with its closure. -/
  rooted : ∀ u below, g.transitiveClosure u = .ok below → v ∈ below →
    ∃ o, (g.verifyRoot u).2 = .ok o ∧ o.get? v = some k ∧ (g.verifyRoot u).1.order? v = some k

/-- Sorting all vertices commits their depths. -/
theorem Acyclic.order?_topologicalOrder {v k : Nat} (h : g.Acyclic) (hv : v ∈ g.ids)
    (hk : g.HasDepth v k) : g.topologicalOrder.1.order? v = some k := by
  rcases g.topologicalOrder_cases with ⟨c, hc, -⟩ | ⟨f, hf, horder⟩
  · exact absurd h hc.not_acyclic
  · rw [horder, order?_foldl_setOrder_of_mem hv (mem_ids.mp hv), (hf v hv).unique hk]

/-- **All calls give a vertex of an acyclic graph its depth.** -/
theorem Acyclic.orderedAlike {vs : List Nat} (h : g.Acyclic) (hvs : vs.Perm g.ids) {v : Nat}
    (hv : v ∈ g.ids) : ∃ k, g.OrderedAlike vs v k := by
  have hdepth : ∀ u ∈ g.ids, ∃ k, g.HasDepth u k := acyclic_iff_hasDepth.mp h
  obtain ⟨k, hk⟩ := hdepth v hv
  refine ⟨k, h.order?_topologicalOrder hv hk, ?_, resolveOrder_of_hasDepth (mem_ids.mp hv) hk, ?_, ?_⟩
  · obtain ⟨o, ho⟩ := (exists_verify_perm_iff_acyclic hvs).mpr h
    exact ⟨o, ho, orders_of_verify ho (hvs.mem_iff.mpr hv) hk⟩
  · intro u below hbelow hmem
    obtain ⟨m, hm⟩ := hdepth u (mem_ids.mpr (exists_transitiveClosure_iff.mp ⟨below, hbelow⟩))
    exact (orders_of_root hm hk hbelow hmem).1
  · intro u below hbelow hmem
    obtain ⟨m, hm⟩ := hdepth u (mem_ids.mpr (exists_transitiveClosure_iff.mp ⟨below, hbelow⟩))
    exact (orders_of_root hm hk hbelow hmem).2

/-- **Every way to ask for a cycle gives the same answer**: sorting all vertices, verifying them in any
order, resolving each of them, verifying each with what is below it, and looking for a vertex below
itself. When there is none all calls give a vertex the same order, and otherwise sorting fails with a
cycle. -/
theorem acyclicity_is_decided_alike {vs : List Nat} (hvs : vs.Perm g.ids) :
    List.TFAE [
      ∃ sorted, g.topologicalOrder.2 = .ok sorted,
      ∃ o, (g.verify vs).2 = .ok o,
      ∀ v ∈ g.ids, ∃ k, (g.resolveOrder v).2 = .ok k,
      ∀ v ∈ g.ids, ∃ o, (g.verifyRoot v).2 = .ok o,
      ∀ v ∈ g.ids, ∀ d ∈ g.dependencies v,
        ∃ below, g.transitiveClosure d = .ok below ∧ v ∉ below] ∧
    (∀ sorted, g.topologicalOrder.2 = .ok sorted → ∀ v ∈ g.ids, ∃ k, g.OrderedAlike vs v k) ∧
    (∀ e, g.topologicalOrder.2 = .error e → ∃ c, e = .cycle c) := by
  have hresolve : (∀ v ∈ g.ids, ∃ k, (g.resolveOrder v).2 = .ok k) ↔ g.Acyclic := by
    rw [acyclic_iff_hasDepth]
    exact forall₂_congr fun _ hv => exists_resolveOrder_iff_hasDepth hv
  refine ⟨?_, ?_, ?_⟩
  · tfae_have 1 ↔ 2 := exists_topologicalOrder_iff_acyclic.trans
      (exists_verify_perm_iff_acyclic hvs).symm
    tfae_have 1 ↔ 3 := exists_topologicalOrder_iff_acyclic.trans hresolve.symm
    tfae_have 3 ↔ 4 := forall₂_congr fun _ _ => exists_verifyRoot_iff.symm
    tfae_have 1 ↔ 5 := exists_topologicalOrder_iff_acyclic.trans acyclic_iff_transitiveClosure
    tfae_finish
  · intro sorted hsorted v hv
    exact (exists_topologicalOrder_iff_acyclic.mp ⟨sorted, hsorted⟩).orderedAlike hvs hv
  · intro e he
    rcases g.topologicalOrder_cases with ⟨c, -, horder⟩ | ⟨f, -, horder⟩
    · rw [horder] at he
      exact ⟨c, (Except.error.inj he).symm⟩
    · rw [horder] at he
      cases he

/-- The diamond passes however it is asked, and its top has order 2 everywhere. The lasso fails in a
list that starts on the cycle as it does when sorted. -/
theorem diamond_asked :
    (∃ o, (diamond.verify [3, 1, 0, 2]).2 = .ok o) ∧ (∃ o, (diamond.verifyRoot 2).2 = .ok o) ∧
    diamond.OrderedAlike [3, 1, 0, 2] 0 2 ∧
    (¬ ∃ o, (lasso.verify [1, 2, 0]).2 = .ok o) ∧
    ¬ ∀ v ∈ lasso.ids, ∃ o, (lasso.verifyRoot v).2 = .ok o := by
  have hdiamond : [3, 1, 0, 2].Perm diamond.ids := by decide
  have hlasso : [1, 2, 0].Perm lasso.ids := by decide
  have hsorted : diamond.topologicalOrder.2 = .ok [3, 1, 2, 0] := by cbv
  have htop : (diamond.resolveOrder 0).2 = .ok 2 := by cbv
  have hfails : ¬ ∃ sorted, lasso.topologicalOrder.2 = .ok sorted := by
    have hcycle : lasso.topologicalOrder.2 = .error (.cycle ⟨["b", "c", "b"], [1, 2, 1]⟩) := by cbv
    simp [hcycle]
  obtain ⟨hpasses, horders, -⟩ := acyclicity_is_decided_alike hdiamond
  obtain ⟨hcyclic, -, -⟩ := acyclicity_is_decided_alike hlasso
  have hlist : ∃ o, (diamond.verify [3, 1, 0, 2]).2 = .ok o :=
    (hpasses.out 0 1 : (∃ sorted, diamond.topologicalOrder.2 = .ok sorted) ↔ _).mp ⟨_, hsorted⟩
  have hroots : ∀ v ∈ diamond.ids, ∃ o, (diamond.verifyRoot v).2 = .ok o :=
    (hpasses.out 0 3 : (∃ sorted, diamond.topologicalOrder.2 = .ok sorted) ↔ _).mp ⟨_, hsorted⟩
  obtain ⟨k, hk⟩ := horders _ hsorted 0 (by decide)
  obtain rfl : k = 2 := Except.ok.inj (hk.resolved.symm.trans htop)
  refine ⟨hlist, hroots 2 (by decide), hk, fun h => hfails ?_, fun h => hfails ?_⟩
  · exact (hcyclic.out 1 0 : (∃ o, (lasso.verify [1, 2, 0]).2 = .ok o) ↔ _).mp h
  · exact (hcyclic.out 3 0 : (∀ v ∈ lasso.ids, ∃ o, (lasso.verifyRoot v).2 = .ok o) ↔ _).mp h

end Lifecycle.Graph
