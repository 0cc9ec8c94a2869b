import Lifecycle.Proofs.Graph.Preorder
import Lifecycle.Proofs.Order.Agreement
import Lifecycle.Proofs.Order.Coverage
import Lifecycle.Proofs.Order.Recursion
import Mathlib

/-!
# One vertex and what lies below it

`Graph.verifyRoot` lists what lies on or below a vertex and verifies the list; `Graph.resolveOrder`
resolves the vertex and commits whatever the pass has met on the way.

* `verifyRoot_cases`: the list is closed and starts at the root, so only a cycle can be wrong with it,
  and that is the one below the root.
* `resolveOrder_fst`: the vertices that a pass has met are those of the list.
* **`verifyRoot_agrees_with_resolveOrder`**: so both do the same, down to the very cycle and the very
  graph. `root_cases` says what.
-/

namespace Lifecycle.Graph

variable {α : Type} {g : Graph α}

/-! ## Verifying a root -/

/-- A transitive closure is closed. -/
theorem closed_preorder {v : Nat} (hv : v < g.size) : g.Closed (g.preorder v) where
  contains := fun u hu => by
    have hr : g.Reaches v u := (mem_preorder_iff hv).mp hu
    exact decide_eq_true (hr.lt hv)
  dependency := fun u hu d hd => by
    rw [mem_preorder_iff hv] at hu ⊢
    exact hu.tail hd

/-- The root stands first, and below a root that has a depth there is no cycle to find. -/
theorem findSome?_preorder {v : Nat} (hv : v < g.size) :
    (g.preorder v).findSome? g.cycleFrom? = g.cycleFrom? v := by
  cases hroot : g.cycleFrom? v with
  | some us =>
    obtain ⟨below, hbelow⟩ := List.head?_eq_some_iff.mp (g.head?_preorder v)
    rw [hbelow, List.findSome?_cons, hroot]
  | none =>
    obtain ⟨k, hk⟩ := cycleFrom?_eq_none.mp hroot
    refine findSome?_cycleFrom?_eq_none.mpr fun u hu => ?_
    obtain ⟨n, -, hn⟩ := hk.reaches ((mem_preorder_iff hv).mp hu)
    exact ⟨n, hn⟩

theorem verifyRoot_of_lt {v : Nat} (hv : v < g.size) : g.verifyRoot v = g.verify (g.preorder v) := by
  rw [verifyRoot, transitiveClosure_of_lt hv]

/-- **All that `verifyRoot` can do.** -/
theorem verifyRoot_cases (g : Graph α) (v : Nat) :
    (g.contains v = false ∧ g.verifyRoot v = (g, .error (.vertexNotFound v))) ∨
    (g.contains v = true ∧ ∃ us, g.cycleFrom? v = some us ∧
      g.verifyRoot v = (g.resetEach (g.preorder v), .error (.cycle (g.cycleOf us)))) ∨
    (g.contains v = true ∧ ∃ f : Nat → Nat, (∀ u ∈ g.preorder v, g.HasDepth u (f u)) ∧
      g.verifyRoot v = ((g.preorder v).foldl (fun g u => g.setOrder u (f u)) g,
        .ok ((g.preorder v).foldl (fun o u => o.insert u (f u)) ∅))) := by
  cases hv : g.contains v with
  | false => exact Or.inl ⟨rfl, by rw [verifyRoot, transitiveClosure, hv]; rfl⟩
  | true =>
    have hlt : v < g.size := of_decide_eq_true hv
    rw [verifyRoot_of_lt hlt]
    refine Or.inr ?_
    rcases g.verify_cases (g.preorder v) with ⟨e, hcheck, -⟩ | ⟨-, us, hus, hverify⟩ |
      ⟨-, f, hf, hverify⟩
    · rw [checkListed_eq_ok_iff.mpr (closed_preorder hlt)] at hcheck
      cases hcheck
    · exact Or.inl ⟨rfl, us, by rw [← findSome?_preorder hlt, hus], hverify⟩
    · exact Or.inr ⟨rfl, f, hf, hverify⟩

/-! ## Resolving a vertex -/

/-- **Resolving a vertex commits depths to what lies on or below it**, and nothing else. -/
theorem resolveOrder_fst {v k : Nat} {f : Nat → Nat} (h : (g.resolveOrder v).2 = .ok k)
    (hf : ∀ u ∈ g.preorder v, g.HasDepth u (f u)) :
    (g.resolveOrder v).1 = (g.preorder v).foldl (fun g u => g.setOrder u (f u)) g := by
  unfold resolveOrder at h ⊢
  split at h
  · rename_i hv
    have hlt : v < g.size := of_decide_eq_true hv
    obtain ⟨w, found, hres⟩ : ∃ w found, (Walk.init g.size).resolve g v = (w, found) := ⟨_, _, rfl⟩
    rw [hres] at h
    cases found with
    | some us => cases h
    | none =>
      have htrail := (Walk.Truthful.init g g.size).resolve .init hlt
      have hmet : ∀ u, u ∈ w.finished.map Prod.fst ↔ u ∈ g.preorder v := fun u => by
        rw [mem_preorder_iff hlt, ← Walk.exists_mem_finished_iff hlt hres]
        simp
      rw [hres] at htrail
      -- the orders on the trail are the depths of its vertices
      have hcommits : w.finished.foldl (fun g e => g.setOrder e.1 e.2) g
          = (w.finished.map Prod.fst).foldl (fun g u => g.setOrder u (f u)) g := by
        rw [List.foldl_map]
        refine List.foldl_ext _ _ _ fun g' e he => ?_
        have hmem := (hmet e.1).mp (List.mem_map_of_mem he)
        rw [(htrail e he).unique (hf e.1 hmem)]
      rw [if_pos hv, hres]
      exact hcommits.trans (foldl_setOrder_of_mem_iff hmet f)
  · cases h

/-! ## Both -/

/-- **Both calls refuse a root alike, or both commit its depth and those of what is below it.** -/
theorem root_cases (g : Graph α) (v : Nat) :
    (∃ e, (∀ name requiredBy, e ≠ .missingVertex name requiredBy) ∧
      (g.verifyRoot v).2 = .error e ∧ (g.resolveOrder v).2 = .error e) ∨
    (v < g.size ∧ ∃ f : Nat → Nat, (∀ u ∈ g.preorder v, g.HasDepth u (f u)) ∧
      g.verifyRoot v = ((g.preorder v).foldl (fun g u => g.setOrder u (f u)) g,
        .ok ((g.preorder v).foldl (fun o u => o.insert u (f u)) ∅)) ∧
      g.resolveOrder v = ((g.preorder v).foldl (fun g u => g.setOrder u (f u)) g, .ok (f v))) := by
  rcases g.verifyRoot_cases v with ⟨hv, hroot⟩ | ⟨hv, us, hus, hroot⟩ | ⟨hv, f, hf, hroot⟩
  · refine Or.inl ⟨.vertexNotFound v, by simp, by rw [hroot], ?_⟩
    simp [resolveOrder, hv]
  · refine Or.inl ⟨.cycle (g.cycleOf us), by simp, by rw [hroot], ?_⟩
    rw [resolveOrder_eq_recursiveOrder hv, cycleFrom?_eq_some.mp hus]
    rfl
  · have hlt : v < g.size := of_decide_eq_true hv
    have hmem : v ∈ g.preorder v := (mem_preorder_iff hlt).mpr .refl
    have hres : (g.resolveOrder v).2 = .ok (f v) := resolveOrder_of_hasDepth hlt (hf v hmem)
    exact Or.inr ⟨hlt, f, hf, hroot, Prod.ext (resolveOrder_fst hres hf) hres⟩

/-- Both calls accept the same vertices. -/
theorem exists_verifyRoot_iff {v : Nat} :
    (∃ o, (g.verifyRoot v).2 = .ok o) ↔ ∃ k, (g.resolveOrder v).2 = .ok k := by
  rcases g.root_cases v with ⟨e, -, hroot, hres⟩ | ⟨-, f, -, hroot, hres⟩
  · simp [hroot, hres]
  · simp [hroot, hres]

/-- **A vertex on or below a root that has a depth gets its depth by both calls.** -/
theorem orders_of_root {u v m k : Nat} {below : List Nat} (hu : g.HasDepth u m) (hk : g.HasDepth v k)
    (hbelow : g.transitiveClosure u = .ok below) (hv : v ∈ below) :
    (g.resolveOrder u).1.order? v = some k ∧
      ∃ o, (g.verifyRoot u).2 = .ok o ∧ o.get? v = some k ∧ (g.verifyRoot u).1.order? v = some k := by
  have hlt : u < g.size := exists_transitiveClosure_iff.mp ⟨below, hbelow⟩
  have hok : (g.resolveOrder u).2 = .ok m := resolveOrder_of_hasDepth hlt hu
  rw [transitiveClosure_of_lt hlt] at hbelow
  obtain rfl := Except.ok.inj hbelow
  have hvlt : v < g.size := ((mem_preorder_iff hlt).mp hv).lt hlt
  rcases g.root_cases u with ⟨e, -, -, hres⟩ | ⟨-, f, hf, hroot, hres⟩
  · rw [hok] at hres
    cases hres
  · obtain rfl : f v = k := (hf v hv).unique hk
    constructor
    · rw [hres, order?_foldl_setOrder_of_mem hv hvlt]
    · rw [hroot]
      refine ⟨_, rfl, ?_, order?_foldl_setOrder_of_mem hv hvlt⟩
      rw [Orders.get?_foldl_insert, if_pos hv]

/-- **Verifying a root and resolving it agree.** Neither misses a vertex; they fail with the same
error, down to the rotation of the cycle, and succeed together. Then the table of the root gives it the
order that resolving it returns, knows the transitive closure and no other vertex, and both calls leave
the same graph. -/
theorem verifyRoot_agrees_with_resolveOrder (g : Graph α) (v : Nat) :
    (∀ name requiredBy, (g.verifyRoot v).2 ≠ .error (.missingVertex name requiredBy)) ∧
    (∀ e, (g.verifyRoot v).2 = .error e ↔ (g.resolveOrder v).2 = .error e) ∧
    ((∃ o, (g.verifyRoot v).2 = .ok o) ↔ ∃ k, (g.resolveOrder v).2 = .ok k) ∧
    (∀ o k, (g.verifyRoot v).2 = .ok o → (g.resolveOrder v).2 = .ok k →
      o.get? v = some k ∧
      (∃ vs, g.transitiveClosure v = .ok vs ∧ o.size = vs.length ∧
        ∀ u, (∃ n, o.get? u = some n) ↔ u ∈ vs) ∧
      (g.verifyRoot v).1 = (g.resolveOrder v).1) := by
  rcases g.root_cases v with ⟨e, he, hroot, hres⟩ | ⟨hv, f, hf, hroot, hres⟩
  · rw [hroot, hres]
    refine ⟨?_, by simp, by simp, by simp⟩
    intro name requiredBy h
    exact he name requiredBy (Except.error.inj h)
  · refine ⟨by simp [hroot], by simp [hroot, hres], exists_verifyRoot_iff, ?_⟩
    rw [hroot, hres]
    intro o k ho hk
    obtain rfl := Except.ok.inj ho
    obtain rfl := Except.ok.inj hk
    have hget : ∀ u, ((g.preorder v).foldl (fun o u => o.insert u (f u)) (∅ : Orders)).get? u
        = if u ∈ g.preorder v then some (f u) else none := by
      intro u
      rw [Orders.get?_foldl_insert, Orders.get?_empty]
    refine ⟨?_, ⟨g.preorder v, transitiveClosure_of_lt hv, ?_, ?_⟩, rfl⟩
    · rw [hget, if_pos ((mem_preorder_iff hv).mpr .refl)]
    · rw [Orders.size_of_get? hget, List.toFinset_card_of_nodup (g.nodup_preorder v)]
    · intro u
      rw [hget]
      by_cases hu : u ∈ g.preorder v <;> simp [hu]

/-- From a side of the diamond both calls find its depth and leave the same graph, and from the end of
the lasso the same cycle. A foreign handle is refused by both. -/
theorem diamond_root :
    (∃ o, (diamond.verifyRoot 1).2 = .ok o ∧ o.get? 1 = some 1 ∧ o.size = 2 ∧
      (diamond.verifyRoot 1).1 = (diamond.resolveOrder 1).1) ∧
    (lasso.resolveOrder 0).2 = .error (.cycle ⟨["b", "c", "b"], [1, 2, 1]⟩) ∧
    (lasso.resolveOrder 3).2 = .error (.vertexNotFound 3) := by
  obtain ⟨-, -, -, hsame⟩ := verifyRoot_agrees_with_resolveOrder diamond 1
  obtain ⟨-, hcycle, -, -⟩ := verifyRoot_agrees_with_resolveOrder lasso 0
  obtain ⟨-, hforeign, -, -⟩ := verifyRoot_agrees_with_resolveOrder lasso 3
  have hroot : (diamond.verifyRoot 1).2 = .ok ⟨#[none, some 1, none, some 0], by simp⟩ := by cbv
  have hres : (diamond.resolveOrder 1).2 = .ok 1 := by cbv
  obtain ⟨hget, ⟨vs, hvs, hsize, -⟩, hgraph⟩ := hsame _ _ hroot hres
  have hclosure : diamond.transitiveClosure 1 = .ok [1, 3] := by cbv
  obtain rfl : vs = [1, 3] := Except.ok.inj (hvs.symm.trans hclosure)
  exact ⟨⟨_, hroot, hget, hsize, hgraph⟩, (hcycle _).mp (by cbv), (hforeign _).mp (by cbv)⟩

end Lifecycle.Graph
