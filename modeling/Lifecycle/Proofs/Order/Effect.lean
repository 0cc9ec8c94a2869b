import Lifecycle.Proofs.Graph.Shape
import Lifecycle.Proofs.Order.Report
import Lifecycle.Proofs.Order.Trail

/-!
# What a verification does to a graph

The phases of a verification fail in different ways: a refused list leaves the graph as it was, a cycle
leaves the listed vertices at order 0, and no failure leaves a partial result.

* `Graph.Effect` says so of a call: it changes orders of the vertices it is about and nothing else
  (`Graph.OnlyOrders`), and what it leaves behind when it fails.
* **`verification_effects`**: every call has such an effect. A call about a root is about what lies on
  or below it, which is what `Graph.transitiveClosure` lists; `Graph.resolveOrder` changes nothing when
  it fails, and sorting in place leaves the list alone when it fails.
-/

namespace Lifecycle.Graph

variable {α β γ : Type} {g : Graph α}

/-- The effect of a call about the vertices with the property `p`. -/
structure Effect (g : Graph α) (p : Nat → Prop) (call : Graph α × Except GraphError β) : Prop where
  /-- Nothing changes but orders of these vertices. -/
  only : g.OnlyOrders p call.1
  /-- A call that is refused changes nothing. -/
  refused : ∀ e, call.2 = .error e → (∀ c, e ≠ .cycle c) → call.1 = g
  /-- A cycle leaves these vertices without an order. -/
  cleared : ∀ c, call.2 = .error (.cycle c) → ∀ v, p v → call.1.order? v = some 0

theorem Effect.of_refused {p : Nat → Prop} {e : GraphError} (he : ∀ c, e ≠ .cycle c) :
    g.Effect p ((g, .error e) : Graph α × Except GraphError β) where
  only := .refl g p
  refused := fun _ _ _ => rfl
  cleared := fun c h => absurd (Except.error.inj h) (he c)

/-- A call that changes the graph as another one does and fails only as it does has its effect. -/
theorem Effect.of_call {p : Nat → Prop} {call : Graph α × Except GraphError β}
    {call' : Graph α × Except GraphError γ} (h : g.Effect p call) (hgraph : call'.1 = call.1)
    (herror : ∀ e, call'.2 = .error e → call.2 = .error e) : g.Effect p call' where
  only := by
    rw [hgraph]
    exact h.only
  refused := fun e he hcycle => by
    rw [hgraph]
    exact h.refused e (herror e he) hcycle
  cleared := fun c hc v hv => by
    rw [hgraph]
    exact h.cleared c (herror _ hc) v hv

theorem Effect.congr {p q : Nat → Prop} {call : Graph α × Except GraphError β}
    (h : g.Effect p call) (hpq : ∀ v, p v ↔ q v) : g.Effect q call where
  only := h.only.mono fun v => (hpq v).mp
  refused := h.refused
  cleared := fun c hc v hv => h.cleared c hc v ((hpq v).mpr hv)

/-! ## Lists -/

theorem order?_resetEach_of_mem {vs : List Nat} {v : Nat} (hv : v ∈ vs) (hlt : v < g.size) :
    (g.resetEach vs).order? v = some 0 := by
  have hcommits : (vs.foldl (fun g v => g.setOrder v 0) g).order? v = some 0 :=
    order?_foldl_setOrder_of_mem hv hlt
  exact hcommits

theorem effect_verify (g : Graph α) (vs : List Nat) : g.Effect (· ∈ vs) (g.verify vs) := by
  rcases g.verify_cases vs with ⟨e, hcheck, hverify⟩ | ⟨hclosed, us, -, hverify⟩ | ⟨-, f, -, hverify⟩
  · rw [hverify]
    exact .of_refused fun c he => checkListed_ne_cycle (he ▸ hcheck)
  · rw [hverify]
    refine ⟨onlyOrders_resetEach g vs, fun e he hcycle => ?_, fun c _ v hv => ?_⟩
    · exact absurd (Except.error.inj he).symm (hcycle _)
    · exact order?_resetEach_of_mem hv (hclosed.lt v hv)
  · rw [hverify]
    refine ⟨(OnlyOrders.refl g _).foldl_setOrder fun _ hv => hv, fun e he => ?_, fun c hc => ?_⟩
    · exact nomatch he
    · exact nomatch hc

/-- Sorting changes the graph as verifying does. -/
theorem topologicalSort_fst (g : Graph α) (vs : List Nat) :
    (g.topologicalSort vs).1 = (g.verify vs).1 := by
  unfold topologicalSort
  split
  · rename_i hverify
    rw [hverify]
  · rename_i hverify
    rw [hverify]

theorem effect_topologicalSort (g : Graph α) (vs : List Nat) :
    g.Effect (· ∈ vs) (g.topologicalSort vs) :=
  (g.effect_verify vs).of_call (g.topologicalSort_fst vs) fun _ => topologicalSort_eq_error_iff.mp

theorem sortInPlace_fst (g : Graph α) (vs : List Nat) :
    (g.sortInPlace vs).1 = (g.topologicalSort vs).1 := by
  unfold sortInPlace
  split
  · rename_i hsort
    rw [hsort]
  · rename_i hsort
    rw [hsort]

/-- Sorting in place fails as sorting does, and with the list as it was. -/
theorem sortInPlace_eq_error {vs : List Nat} {e : GraphError}
    (h : (g.sortInPlace vs).2.2 = .error e) :
    (g.topologicalSort vs).2 = .error e ∧ (g.sortInPlace vs).2.1 = vs := by
  unfold sortInPlace at h ⊢
  split at h
  · rename_i g' e' hsort
    obtain rfl : e' = e := Except.error.inj h
    rw [hsort]
    exact ⟨rfl, rfl⟩
  · cases h

theorem effect_sortInPlace (g : Graph α) (vs : List Nat) :
    g.Effect (· ∈ vs) ((g.sortInPlace vs).1, (g.sortInPlace vs).2.2) :=
  (g.effect_topologicalSort vs).of_call (g.sortInPlace_fst vs) fun _ h => (sortInPlace_eq_error h).1

theorem topologicalOrder_fst (g : Graph α) :
    g.topologicalOrder.1 = (g.topologicalSort g.ids).1 := by
  unfold topologicalOrder
  split
  · rename_i hsort
    rw [hsort]
  · rename_i hsort
    rw [hsort]

theorem effect_topologicalOrder (g : Graph α) : g.Effect (· ∈ g.ids) g.topologicalOrder :=
  (g.effect_topologicalSort g.ids).of_call g.topologicalOrder_fst fun _ =>
    topologicalOrder_eq_error_iff.mp

/-! ## Roots -/

theorem effect_verifyRoot (g : Graph α) (root : Nat) :
    g.Effect (g.Reaches root) (g.verifyRoot root) := by
  cases hclosure : g.transitiveClosure root with
  | error e =>
    have hcall : g.verifyRoot root = (g, .error e) := by rw [verifyRoot, hclosure]
    rw [hcall]
    refine .of_refused fun c he => ?_
    unfold transitiveClosure at hclosure
    split at hclosure
    · cases hclosure
    · obtain rfl := Except.error.inj hclosure
      cases he
  | ok vs =>
    have hcall : g.verifyRoot root = g.verify vs := by rw [verifyRoot, hclosure]
    rw [hcall]
    exact (g.effect_verify vs).congr fun v => mem_transitiveClosure_iff hclosure

theorem onlyOrders_resolveOrder (g : Graph α) (v : Nat) :
    g.OnlyOrders (g.Reaches v) (g.resolveOrder v).1 := by
  unfold resolveOrder
  split
  · rename_i hv
    have hwithin := (Walk.Within.init (g.Reaches v) g.size).resolve .init (of_decide_eq_true hv)
      .refl fun _ hu _ hd => hu.tail hd
    split
    · exact .refl g _
    · rename_i w hres
      rw [hres] at hwithin
      have hcommits : g.OnlyOrders (g.Reaches v)
          (w.finished.foldl (fun g e => g.setOrder e.1 e.2) g) :=
        (OnlyOrders.refl g _).foldl_setOrder hwithin.finished
      exact hcommits
  · exact .refl g _

theorem resolveOrder_fst_of_error {v : Nat} {e : GraphError} (h : (g.resolveOrder v).2 = .error e) :
    (g.resolveOrder v).1 = g := by
  rcases g.resolveOrder_cases v with ⟨-, hres⟩ | ⟨-, c, -, hres⟩ | ⟨-, k, -, hres⟩
  · rw [hres]
  · rw [hres]
  · rw [hres] at h
    exact nomatch h

/-! ## All calls -/

/-- **What the calls that verify do to a graph.** They change orders of the vertices they are about and
nothing else; a refused call changes nothing; a cycle leaves these vertices at order 0, and the graph as
it was if only one vertex was to be resolved. A list that is sorted in place stays as it was unless the
call succeeds. -/
theorem verification_effects (g : Graph α) :
    (∀ vs, g.Effect (· ∈ vs) (g.verify vs)) ∧
    (∀ vs, g.Effect (· ∈ vs) ((g.sortInPlace vs).1, (g.sortInPlace vs).2.2) ∧
      ∀ e, (g.sortInPlace vs).2.2 = .error e → (g.sortInPlace vs).2.1 = vs) ∧
    g.Effect (· ∈ g.ids) g.topologicalOrder ∧
    (∀ root, g.Effect (g.Reaches root) (g.verifyRoot root)) ∧
    (∀ v, g.OnlyOrders (g.Reaches v) (g.resolveOrder v).1 ∧
      ∀ e, (g.resolveOrder v).2 = .error e → (g.resolveOrder v).1 = g) ∧
    (∀ root vs, g.transitiveClosure root = .ok vs → ∀ v, v ∈ vs ↔ g.Reaches root v) := by
  refine ⟨fun vs => g.effect_verify vs, fun vs => ⟨g.effect_sortInPlace vs, fun e he => ?_⟩,
    g.effect_topologicalOrder, fun root => g.effect_verifyRoot root, fun v => ?_, fun root vs h v => ?_⟩
  · exact (sortInPlace_eq_error he).2
  · exact ⟨g.onlyOrders_resolveOrder v, fun e he => resolveOrder_fst_of_error he⟩
  · exact mem_transitiveClosure_iff h

/-- A lasso whose last vertex has an order from before. A list that is not closed changes nothing, one
that holds the cycle clears all orders and is not sorted, and resolving a vertex keeps the order. -/
theorem lasso_effects :
    ((lasso.setOrder 2 7).verify [2]).1 = lasso.setOrder 2 7 ∧
    ((lasso.setOrder 2 7).sortInPlace [2, 0, 1]).2.1 = [2, 0, 1] ∧
    ((lasso.setOrder 2 7).sortInPlace [2, 0, 1]).1.order? 2 = some 0 ∧
    ((lasso.setOrder 2 7).verifyRoot 0).1.order? 2 = some 0 ∧
    ((lasso.setOrder 2 7).resolveOrder 0).1.order? 2 = some 7 ∧
    ((lasso.setOrder 2 7).verifyRoot 1).1.label 0 = "a" := by
  obtain ⟨hverify, hsort, -, hroot, hresolve, -⟩ := verification_effects (lasso.setOrder 2 7)
  have hrefused : ((lasso.setOrder 2 7).verify [2]).2 = .error (.missingVertex "b" "c") := by cbv
  have hlist : ((lasso.setOrder 2 7).sortInPlace [2, 0, 1]).2.2
      = .error (.cycle ⟨["c", "b", "c"], [2, 1, 2]⟩) := by cbv
  have hbelow : ((lasso.setOrder 2 7).verifyRoot 0).2
      = .error (.cycle ⟨["b", "c", "b"], [1, 2, 1]⟩) := by cbv
  have hfrom : ((lasso.setOrder 2 7).resolveOrder 0).2
      = .error (.cycle ⟨["b", "c", "b"], [1, 2, 1]⟩) := by cbv
  have hreach : (lasso.setOrder 2 7).Reaches 0 2 :=
    .head (b := 1) (by decide) (.single (by decide))
  refine ⟨(hverify [2]).refused _ hrefused (by simp), (hsort [2, 0, 1]).2 _ hlist,
    (hsort [2, 0, 1]).1.cleared _ hlist 2 (by decide), (hroot 0).cleared _ hbelow 2 hreach, ?_, ?_⟩
  · rw [(hresolve 0).2 _ hfrom]
    rfl
  · rw [(hroot 1).only.label]
    rfl

end Lifecycle.Graph
