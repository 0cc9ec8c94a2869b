import Lifecycle.Proofs.Graph.Closure
import Lifecycle.Proofs.Graph.Extension
import Lifecycle.Proofs.Order.Sorting
import Mathlib

/-!
# Verifying a whole graph

All vertices together are closed under dependency, so only a cycle can be wrong with them.

* **`exists_verify_ids_iff_acyclic`**: they pass iff the graph is acyclic, and fail with a cycle otherwise
  (`isCycle_of_verify_ids`).
* **`verify_addDependency`**: what becomes of a graph that passes when an edge is added. It fails iff the
  target of the edge reaches its source, and orders change at the source and above it only.
-/

namespace Lifecycle.Graph

variable {α : Type} {g : Graph α}

/-- If every vertex has a depth there is no cycle: one would run through vertices of the graph. -/
theorem acyclic_of_hasDepth (h : ∀ v < g.size, ∃ k, g.HasDepth v k) : g.Acyclic :=
  Chain.acyclic_of_hasDepth fun v _ hd => h v (lt_of_mem_dependencies hd)

/-- **A graph passes iff it is acyclic.** -/
theorem exists_verify_ids_iff_acyclic : (∃ o, (g.verify g.ids).2 = .ok o) ↔ g.Acyclic := by
  constructor
  · rintro ⟨o, ho⟩
    obtain ⟨-, f, hf, -, -⟩ := exists_depth_of_verify ho
    exact acyclic_of_hasDepth fun v hv => ⟨f v, hf v (mem_ids.mpr hv)⟩
  · intro h
    rw [exists_verify_eq_ok_iff, Option.eq_none_iff_forall_ne_some]
    exact ⟨g.closed_ids, fun us hus => (isCycle_of_findSome? hus).1.not_acyclic h⟩

/-- A graph that does not pass has a cycle, which is reported. -/
theorem isCycle_of_verify_ids {e : GraphError} (h : (g.verify g.ids).2 = .error e) :
    ∃ us, g.IsCycle us ∧ e = .cycle (g.cycleOf us) := by
  rcases g.verify_cases g.ids with ⟨e', hcheck, -⟩ | ⟨-, us, hus, hverify⟩ | ⟨-, f, -, hverify⟩
  · rw [checkListed_eq_ok_iff.mpr g.closed_ids] at hcheck
    cases hcheck
  · rw [hverify] at h
    exact ⟨us, (isCycle_of_findSome? hus).1, (Except.error.inj h).symm⟩
  · rw [hverify] at h
    cases h

/-- The orders of a graph that passes are the depths of its vertices. -/
theorem get?_of_verify_ids {o : Orders} (h : (g.verify g.ids).2 = .ok o) {v : Nat} (hv : v < g.size) :
    ∃ k, g.HasDepth v k ∧ o.get? v = some k := by
  obtain ⟨-, f, hf, hget, -⟩ := exists_depth_of_verify h
  exact ⟨f v, hf v (mem_ids.mpr hv), by rw [hget, if_pos (mem_ids.mpr hv)]⟩

/-- What verifying all vertices of `g'` finds, which is `g` with an edge from `a` to `b`, when `g` has
the orders `o`. -/
structure NewEdge (g : Graph α) (o : Orders) (a b : Nat) (g' : Graph α) : Prop where
  /-- It succeeds iff the source is not in the closure of the target. -/
  passes_iff : ∃ below, g.transitiveClosure b = .ok below ∧
    ((∃ o', (g'.verify g'.ids).2 = .ok o') ↔ a ∉ below)
  /-- The closures may be taken with the edge or without it. -/
  source_mem_iff : ∀ v below below', g.transitiveClosure v = .ok below →
    g'.transitiveClosure v = .ok below' → (a ∈ below' ↔ a ∈ below)
  /-- An edge from a vertex to itself is a cycle. -/
  loop : a = b → ∃ e, (g'.verify g'.ids).2 = .error e
  /-- The cycle that is reported runs along the edge. -/
  closes : ∀ e, (g'.verify g'.ids).2 = .error e →
    ∃ c us ws, e = .cycle c ∧ c.vertices = us ++ a :: b :: ws
  /-- Orders only grow. -/
  rises : ∀ o', (g'.verify g'.ids).2 = .ok o' →
    ∀ v < g.size, ∃ m n, o.get? v = some m ∧ o'.get? v = some n ∧ m ≤ n
  /-- The source stands above the target, and as high as before at least. -/
  source : ∀ o', (g'.verify g'.ids).2 = .ok o' →
    ∃ m n, o.get? a = some m ∧ o.get? b = some n ∧ o'.get? a = some (max m (n + 1))
  /-- A vertex that does not reach the source keeps its order. -/
  elsewhere : ∀ o', (g'.verify g'.ids).2 = .ok o' →
    ∀ v below, g.transitiveClosure v = .ok below → a ∉ below → o'.get? v = o.get? v

/-- **One more edge in a graph that passes.** -/
theorem verify_addDependency {o : Orders} {a b : Nat} (h : (g.verify g.ids).2 = .ok o)
    (ha : a < g.size) (hb : b < g.size) :
    (g.addDependency a b).2 = .ok () ∧ g.NewEdge o a b (g.addDependency a b).1 := by
  have hacyclic : g.Acyclic := exists_verify_ids_iff_acyclic.mp ⟨o, h⟩
  have hsize : (g.link a b).size = g.size := size_link g a b
  have hpasses : (∃ o', ((g.link a b).verify (g.link a b).ids).2 = .ok o') ↔ ¬ g.Reaches b a :=
    exists_verify_ids_iff_acyclic.trans (acyclic_link_iff ha hb hacyclic)
  obtain ⟨below, hbelow⟩ := exists_transitiveClosure_iff.mpr hb
  rw [addDependency_eq ha hb]
  refine ⟨rfl, ⟨below, hbelow, ?_⟩, fun v vs vs' hvs hvs' => ?_, ?_, fun e he => ?_,
    fun o' ho' v hv => ?_, fun o' ho' => ?_, fun o' ho' v vs hvs hnot => ?_⟩
  · rw [hpasses, mem_transitiveClosure_iff hbelow]
  · rw [mem_transitiveClosure_iff hvs, mem_transitiveClosure_iff hvs', reaches_link_source ha hb]
  · rintro rfl
    cases hres : ((g.link a a).verify (g.link a a).ids).2 with
    | error e => exact ⟨e, rfl⟩
    | ok o' => exact absurd .refl (hpasses.mp ⟨o', hres⟩)
  · obtain ⟨cycle, hcycle, rfl⟩ := isCycle_of_verify_ids he
    obtain ⟨us, ws, hedge⟩ := isCycle_link ha hb hacyclic hcycle
    exact ⟨_, us, ws, rfl, hedge⟩
  · obtain ⟨m, hm, hget⟩ := get?_of_verify_ids h hv
    obtain ⟨n, hn, hget'⟩ := get?_of_verify_ids ho' (hsize ▸ hv)
    exact ⟨m, n, hget, hget', hm.le_of_le (extends_link ha hb) hn⟩
  · obtain ⟨m, hm, hgeta⟩ := get?_of_verify_ids h ha
    obtain ⟨n, hn, hgetb⟩ := get?_of_verify_ids h hb
    obtain ⟨k, hk, hget'⟩ := get?_of_verify_ids ho' (hsize ▸ ha)
    have hsource := HasDepth.link_source ha hb hm hn (hpasses.mp ⟨o', ho'⟩)
    exact ⟨m, n, hgeta, hgetb, by rw [hget', hk.unique hsource]⟩
  · rw [mem_transitiveClosure_iff hvs] at hnot
    have hv : v < g.size := exists_transitiveClosure_iff.mp ⟨vs, hvs⟩
    obtain ⟨m, hm, hget⟩ := get?_of_verify_ids h hv
    obtain ⟨n, hn, hget'⟩ := get?_of_verify_ids ho' (hsize ▸ hv)
    rw [hget, hget', hn.unique (hm.link_of_not_reaches ha hb hnot)]

/-- The diamond with an edge between its two sides, which raises one of them, and with an edge from the
bottom to the top, which closes a cycle. -/
theorem diamond_new_edges :
    (∃ o, (diamond.verify diamond.ids).2 = .ok o ∧ o.get? 1 = some 1 ∧ o.get? 2 = some 1) ∧
    (∃ o, ((diamond.addDependency 1 2).1.verify [0, 1, 2, 3]).2 = .ok o ∧
      o.get? 1 = some 2 ∧ o.get? 2 = some 1) ∧
    ∃ c us ws, ((diamond.addDependency 3 0).1.verify [0, 1, 2, 3]).2 = .error (.cycle c) ∧
      c.vertices = us ++ 3 :: 0 :: ws := by
  have h : (diamond.verify diamond.ids).2 = .ok ⟨#[some 2, some 1, some 1, some 0], by simp⟩ := by cbv
  obtain ⟨-, hside⟩ := verify_addDependency (a := 1) (b := 2) h (by decide) (by decide)
  obtain ⟨-, hback⟩ := verify_addDependency (a := 3) (b := 0) h (by decide) (by decide)
  refine ⟨⟨_, h, rfl, rfl⟩, ?_, ?_⟩
  · obtain ⟨below, hbelow, hpasses⟩ := hside.passes_iff
    have hclosure : diamond.transitiveClosure 2 = .ok [2, 3] := by cbv
    obtain rfl : below = [2, 3] := Except.ok.inj (hbelow.symm.trans hclosure)
    obtain ⟨o, ho⟩ := hpasses.mpr (by decide)
    obtain ⟨m, n, hm, hn, hsource⟩ := hside.source o ho
    obtain rfl : 1 = m := Option.some.inj hm
    obtain rfl : 1 = n := Option.some.inj hn
    exact ⟨o, ho, hsource, hside.elsewhere o ho 2 [2, 3] hclosure (by decide)⟩
  · obtain ⟨below, hbelow, hpasses⟩ := hback.passes_iff
    have hclosure : diamond.transitiveClosure 0 = .ok [0, 1, 3, 2] := by cbv
    obtain rfl : below = [0, 1, 3, 2] := Except.ok.inj (hbelow.symm.trans hclosure)
    cases hres : ((diamond.addDependency 3 0).1.verify (diamond.addDependency 3 0).1.ids).2 with
    | ok o => exact absurd (hpasses.mp ⟨o, hres⟩) (by decide)
    | error e =>
      obtain ⟨c, us, ws, rfl, hedge⟩ := hback.closes e hres
      exact ⟨c, us, ws, hres, hedge⟩

end Lifecycle.Graph
