import Lifecycle.Proofs.Order.Report

/-!
# Resolution is plain recursion

* **`resolution_eq_recursion`**: a pass with an explicit stack and remembered orders returns the orders
  of `Graph.recursiveOrder`, or the very cycle that the recursion runs into first.
-/

namespace Lifecycle.Graph

variable {α : Type} {g : Graph α}

/-- What a call that resolves one vertex makes of the result of the recursion. -/
def reported (g : Graph α) : Except (List Nat) Nat → Except GraphError Nat
  | .ok k => .ok k
  | .error us => .error (.cycle (g.cycleOf us))

theorem resolveOrder_eq_recursiveOrder {v : Nat} (hv : g.contains v = true) :
    (g.resolveOrder v).2 = g.reported (g.recursiveOrder v) := by
  rcases g.resolveOrder_cases v with ⟨hnot, -⟩ | ⟨-, us, hus, hres⟩ | ⟨-, k, hk, hres⟩
  · rw [hv] at hnot
    exact nomatch hnot
  · rw [hres, cycleFrom?_eq_some.mp hus]
    rfl
  · rw [hres, recursiveOrder_eq_ok_iff.mpr hk]
    rfl

/-- A vertex that has a depth resolves to it. -/
theorem resolveOrder_of_hasDepth {v k : Nat} (hv : v < g.size) (h : g.HasDepth v k) :
    (g.resolveOrder v).2 = .ok k := by
  rw [resolveOrder_eq_recursiveOrder (decide_eq_true hv), recursiveOrder_eq_ok_iff.mpr h]
  rfl

/-- The cycle of a closed list is that of the first entry from which the recursion fails. -/
theorem verify_of_isFirst_error {vs us : List Nat} {v : Nat} (h : g.Closed vs)
    (hfirst : IsFirst (fun u => ∃ c, g.recursiveOrder u = .error c) vs v)
    (hv : g.recursiveOrder v = .error us) :
    (g.verify vs).2 = .error (.cycle (g.cycleOf us)) := by
  refine verify_eq_cycle_iff.mpr ⟨h, us, ?_, rfl⟩
  refine (findSome?_eq_some_iff_isFirst fun u _ => ?_).mpr ⟨v, hfirst, cycleFrom?_eq_some.mpr hv⟩
  rw [Option.eq_none_iff_forall_ne_some, not_exists]
  exact forall_congr' fun c => not_congr cycleFrom?_eq_some

/-- **Resolution is plain recursion.** The recursion takes the dependencies of a vertex in turn, without
remembering orders. Resolving a vertex gives its order or its cycle; verifying a closed list gives the
cycle of the first entry that has one, and otherwise the order of every entry. -/
theorem resolution_eq_recursion (g : Graph α) :
    (∀ path v, g.orderOver path (g.dependencies v) 0 =
      ((g.dependencies v).mapM (g.orderBelow path)).map fun ks => ks.max?.elim 0 (· + 1)) ∧
    (∀ v, g.contains v = true → (g.resolveOrder v).2 = g.reported (g.recursiveOrder v)) ∧
    (∀ vs, g.Closed vs →
      (∀ v us, IsFirst (fun u => ∃ c, g.recursiveOrder u = .error c) vs v →
        g.recursiveOrder v = .error us → (g.verify vs).2 = .error (.cycle (g.cycleOf us))) ∧
      ((∀ v ∈ vs, ∃ k, g.recursiveOrder v = .ok k) → ∃ o, (g.verify vs).2 = .ok o ∧
        ∀ v ∈ vs, ∃ k, g.recursiveOrder v = .ok k ∧ o.get? v = some k ∧
          (g.verify vs).1.order? v = some k)) := by
  refine ⟨fun path v => ?_, fun v hv => resolveOrder_eq_recursiveOrder hv, fun vs hclosed =>
    ⟨fun v us hfirst hv => verify_of_isFirst_error hclosed hfirst hv, fun hall => ?_⟩⟩
  · rw [orderOver_eq_mapM]
    simp
  · have hnone : vs.findSome? g.cycleFrom? = none :=
      findSome?_cycleFrom?_eq_none.mpr fun v hv => by
        obtain ⟨k, hk⟩ := hall v hv
        exact ⟨k, recursiveOrder_eq_ok_iff.mp hk⟩
    obtain ⟨o, ho⟩ := exists_verify_eq_ok_iff.mpr ⟨hclosed, hnone⟩
    obtain ⟨-, f, hf, hget, horder⟩ := exists_depth_of_verify ho
    refine ⟨o, ho, fun v hv => ⟨f v, recursiveOrder_eq_ok_iff.mpr (hf v hv), ?_, horder v hv⟩⟩
    rw [hget, if_pos hv]

/-- The cycle of the lasso starts where the recursion comes back to: at `b` from `a`, and at `c` from
`c`. A list reports that of its first entry, and a list of the diamond has no cycle. -/
theorem lasso_resolution :
    (lasso.resolveOrder 0).2 = .error (.cycle ⟨["b", "c", "b"], [1, 2, 1]⟩) ∧
    (lasso.verify [2, 0, 1]).2 = .error (.cycle ⟨["c", "b", "c"], [2, 1, 2]⟩) ∧
    ∃ o, (diamond.verify [2, 0, 3, 1]).2 = .ok o ∧ o.get? 0 = some 2 := by
  obtain ⟨-, hresolve, hverify⟩ := resolution_eq_recursion lasso
  have h₀ : lasso.recursiveOrder 0 = .error [1, 2, 1] := by cbv
  have h₂ : lasso.recursiveOrder 2 = .error [2, 1, 2] := by cbv
  have hlasso : lasso.Closed [2, 0, 1] := ⟨by decide, by decide⟩
  have hdiamond : diamond.Closed [2, 0, 3, 1] := ⟨by decide, by decide⟩
  have hall : ∀ v ∈ [2, 0, 3, 1], ∃ k, diamond.recursiveOrder v = .ok k := by
    simp only [List.forall_mem_cons]
    exact ⟨⟨1, by cbv⟩, ⟨2, by cbv⟩, ⟨0, by cbv⟩, ⟨1, by cbv⟩, by simp⟩
  refine ⟨by rw [hresolve 0 (by decide), h₀]; rfl,
    (hverify [2, 0, 1] hlasso).1 2 [2, 1, 2] ⟨[], [0, 1], rfl, by simp, _, h₂⟩ h₂, ?_⟩
  obtain ⟨-, -, hdiamond'⟩ := resolution_eq_recursion diamond
  obtain ⟨o, ho, horders⟩ := (hdiamond' [2, 0, 3, 1] hdiamond).2 hall
  obtain ⟨k, hk, hget, -⟩ := horders 0 (by decide)
  have h : diamond.recursiveOrder 0 = .ok 2 := by cbv
  obtain rfl : 2 = k := Except.ok.inj (h.symm.trans hk)
  exact ⟨o, ho, hget⟩

end Lifecycle.Graph
