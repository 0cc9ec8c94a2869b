import Lifecycle.Order.Action
import Lifecycle.Proofs.Order.Effect

/-!
# What a verification depends on

* **`verify_of_sameShape`**: the result of a verification depends on labels and dependencies alone.
  Every step of the walk reads dependencies and nothing else (`Graph.pass_congr`).
* **`verify_of_mem_iff`**: but for the cycle or the vertex that is reported, it depends on the members
  of the list alone. Which outcome a list has can be said of its members: `verify_of_foreign`,
  `verify_of_unlisted`, `verify_of_cyclic` and `verify_of_hasDepth`.
* **`outcome_of_shape_and_members`** puts both together. Earlier calls that add no vertex and no edge
  do not matter either (`sameShape_after`).
-/

namespace Lifecycle

variable {α β : Type} {g : Graph α} {g' : Graph β}

/-! ## Graphs of one shape -/

theorem Graph.SameShape.contains (h : g.SameShape g') (v : Nat) : g'.contains v = g.contains v := by
  unfold Graph.contains
  rw [h.size]

theorem Graph.SameShape.newestFirst (h : g.SameShape g') (v : Nat) :
    g'.newestFirst v = g.newestFirst v :=
  List.reverse_injective (h.dependencies v)

/-- Whether a list is closed is said of its members, in any graph of the same shape. -/
theorem Graph.Closed.of_sameShape {us vs : List Nat} (h : g.Closed vs) (hshape : g.SameShape g')
    (hmem : ∀ v, v ∈ us ↔ v ∈ vs) : g'.Closed us where
  contains := fun v hv => by
    rw [hshape.contains]
    exact h.contains v ((hmem v).mp hv)
  dependency := fun v hv d hd => by
    rw [hshape.dependencies] at hd
    exact (hmem d).mpr (h.dependency v ((hmem v).mp hv) d hd)

/-- The check of a list reads sizes, labels and dependencies. -/
theorem Graph.SameShape.checkListed (h : g.SameShape g') (vs : List Nat) :
    g'.checkListed vs = g.checkListed vs := by
  have hunlisted : g'.unlisted? vs = g.unlisted? vs := by
    unfold Graph.unlisted?
    simp only [h.size, h.newestFirst]
  unfold Graph.checkListed
  simp only [hunlisted, h.contains, h.label]

section Dependencies

variable (h : ∀ v, g'.dependencies v = g.dependencies v)
include h

namespace Walk

theorem push_congr (w : Walk) (v : Nat) : push g' w v = push g w v := by
  unfold push Frame.enter
  rw [h]

theorem step_congr (w : Walk) : w.step g' = w.step g := by
  unfold step
  simp only [push_congr h]

omit h in
/-- A run goes on as its first step says. -/
theorem run_eq (g : Graph α) (w : Walk) :
    run g w =
      match w.step g with
      | .rest w' => (w', none)
      | .cycle w' vertices => (w', some vertices)
      | .next w' => run g w' := by
  rw [run]
  split <;> rename_i hstep <;> rw [hstep]

theorem run_congr (w : Walk) : run g' w = run g w := by
  fun_induction run g w with
  | case1 w w' hstep => rw [run_eq, step_congr h, hstep]
  | case2 w w' vertices hstep => rw [run_eq, step_congr h, hstep]
  | case3 w w' hstep ih =>
    rw [run_eq, step_congr h, hstep]
    exact ih

theorem resolve_congr (w : Walk) (v : Nat) : w.resolve g' v = w.resolve g v := by
  unfold resolve
  simp only [push_congr h, run_congr h]

theorem resolveEach_congr : ∀ (vs : List Nat) (w : Walk), w.resolveEach g' vs = w.resolveEach g vs
  | [], _ => rfl
  | v :: vs, w => by
    unfold resolveEach
    rw [resolve_congr h]
    cases w.resolve g v with
    | mk w' found =>
      cases found with
      | some vertices => rfl
      | none => exact resolveEach_congr vs w'

end Walk

/-- **A pass reads dependencies alone.** -/
theorem Graph.pass_congr (hsize : g'.size = g.size) (vs : List Nat) : g'.pass vs = g.pass vs := by
  unfold Graph.pass
  rw [hsize]
  exact Walk.resolveEach_congr h vs _

end Dependencies

/-- **Verification reads labels and dependencies alone**: neither payloads nor committed orders change
its result. -/
theorem Graph.verify_of_sameShape (h : g.SameShape g') (vs : List Nat) :
    (g'.verify vs).2 = (g.verify vs).2 := by
  have hpass : g'.pass vs = g.pass vs := Graph.pass_congr h.dependencies h.size vs
  have hcycle : ∀ us, g'.cycleOf us = g.cycleOf us := fun us => by
    unfold Graph.cycleOf
    rw [funext h.label]
  unfold Graph.verify
  rw [h.checkListed, hpass]
  cases g.checkListed vs with
  | error e => rfl
  | ok u =>
    cases g.pass vs with
    | mk w found =>
      cases found with
      | some us => simp only [hcycle]
      | none => rfl

/-! ## Lists with the same members -/

namespace Graph

/-- Two results agree: the same value, or failures of the same kind. -/
inductive Agree : Except GraphError β → Except GraphError β → Prop
  | ok (b : β) : Agree (.ok b) (.ok b)
  | cycle (c c' : Cycle) : Agree (.error (.cycle c)) (.error (.cycle c'))
  | missingVertex (a a' b b' : String) :
      Agree (.error (.missingVertex a b)) (.error (.missingVertex a' b'))
  | vertexNotFound (v v' : Nat) : Agree (.error (.vertexNotFound v)) (.error (.vertexNotFound v'))

theorem exists_isFirst {p : Nat → Prop} {vs : List Nat} (h : ∃ v ∈ vs, p v) :
    ∃ v, IsFirst p vs v := by
  classical
  obtain ⟨v, hv, hp⟩ := h
  have hfind : (vs.find? fun u => decide (p u)).isSome = true :=
    List.find?_isSome.mpr ⟨v, hv, decide_eq_true hp⟩
  obtain ⟨u, hu⟩ := Option.isSome_iff_exists.mp hfind
  exact ⟨u, (find?_eq_some_iff_isFirst fun _ _ => decide_eq_true_iff).mp hu⟩

/-- A list with a foreign handle is refused for one. -/
theorem verify_of_foreign {vs : List Nat} (h : ∃ v ∈ vs, g.contains v = false) :
    ∃ v, g.verify vs = (g, .error (.vertexNotFound v)) := by
  obtain ⟨v, hv⟩ := exists_isFirst h
  exact ⟨v, by rw [verify, checkListed_vertexNotFound_iff.mpr hv]⟩

/-- A list without foreign handles that is not closed is refused for an unlisted dependency. -/
theorem verify_of_unlisted {vs : List Nat} (hcontains : ∀ v ∈ vs, g.contains v = true)
    (h : ∃ v ∈ vs, g.NeedsUnlisted vs v) :
    ∃ a b, g.verify vs = (g, .error (.missingVertex a b)) := by
  obtain ⟨v, hv⟩ := exists_isFirst h
  have hdependency : ∃ d ∈ (g.dependencies v).reverse, d ∉ vs := by
    obtain ⟨-, -, -, -, d, hd, hnot⟩ := hv
    exact ⟨d, List.mem_reverse.mpr hd, hnot⟩
  obtain ⟨d, hd⟩ := exists_isFirst hdependency
  have hcheck := checkListed_missingVertex_iff.mpr ⟨hcontains, v, d, hv, hd, rfl, rfl⟩
  exact ⟨g.label d, g.label v, by rw [verify, hcheck]⟩

/-- A closed list with a member that has no depth is refused for a cycle. -/
theorem verify_of_cyclic {vs : List Nat} (hclosed : g.Closed vs)
    (h : ∃ v ∈ vs, ¬ ∃ k, g.HasDepth v k) :
    ∃ c, g.verify vs = (g.resetEach vs, .error (.cycle c)) := by
  obtain ⟨v, hv, hdepth⟩ := h
  rcases g.verify_cases vs with ⟨e, hcheck, -⟩ | ⟨-, us, -, hverify⟩ | ⟨-, f, hf, -⟩
  · rw [checkListed_eq_ok_iff.mpr hclosed] at hcheck
    cases hcheck
  · exact ⟨g.cycleOf us, hverify⟩
  · exact absurd ⟨f v, hf v hv⟩ hdepth

/-- A closed list whose members have depths passes with these. -/
theorem verify_of_hasDepth {vs : List Nat} {f : Nat → Nat} (hclosed : g.Closed vs)
    (h : ∀ v ∈ vs, g.HasDepth v (f v)) :
    g.verify vs = (vs.foldl (fun g v => g.setOrder v (f v)) g,
      .ok (vs.foldl (fun o v => o.insert v (f v)) ∅)) := by
  rcases g.verify_cases vs with ⟨e, hcheck, -⟩ | ⟨-, us, hus, -⟩ | ⟨-, f', hf', hverify⟩
  · rw [checkListed_eq_ok_iff.mpr hclosed] at hcheck
    cases hcheck
  · rw [findSome?_cycleFrom?_eq_none.mpr fun v hv => ⟨f v, h v hv⟩] at hus
    cases hus
  · have hsame : ∀ v ∈ vs, f' v = f v := fun v hv => (hf' v hv).unique (h v hv)
    rw [hverify]
    congr 1
    · exact List.foldl_ext _ _ _ fun g v hv => by rw [hsame v hv]
    · exact congrArg _ (List.foldl_ext _ _ _ fun o v hv => by rw [hsame v hv])

/-- Commits to lists with the same members give the same graph. -/
theorem foldl_setOrder_of_mem_iff {us vs : List Nat} (h : ∀ v, v ∈ us ↔ v ∈ vs) (f : Nat → Nat) :
    us.foldl (fun g v => g.setOrder v (f v)) g = vs.foldl (fun g v => g.setOrder v (f v)) g := by
  refine ext_vertex? (fun v => ?_) ?_
  · rw [vertex?_foldl_setOrder, vertex?_foldl_setOrder]
    simp only [h]
  · have hedges : ∀ ws : List Nat,
        (ws.foldl (fun g v => g.setOrder v (f v)) g).edges = g.edges := fun ws =>
      ((OnlyOrders.refl g fun _ => True).foldl_setOrder fun _ _ => trivial).edges
    rw [hedges, hedges]

theorem resetEach_of_mem_iff {us vs : List Nat} (h : ∀ v, v ∈ us ↔ v ∈ vs) :
    g.resetEach us = g.resetEach vs :=
  foldl_setOrder_of_mem_iff h fun _ => 0

theorem foldl_insert_of_mem_iff {us vs : List Nat} (h : ∀ v, v ∈ us ↔ v ∈ vs) (f : Nat → Nat) :
    us.foldl (fun o v => o.insert v (f v)) (∅ : Orders)
      = vs.foldl (fun o v => o.insert v (f v)) ∅ := by
  refine Orders.ext_get? fun v => ?_
  rw [Orders.get?_foldl_insert, Orders.get?_foldl_insert]
  simp only [h]

/-- **The members of a list decide what its verification does**, but for the cycle or the vertex that
is reported. -/
theorem verify_of_mem_iff {us vs : List Nat} (h : ∀ v, v ∈ us ↔ v ∈ vs) :
    (g.verify us).1 = (g.verify vs).1 ∧ Agree (g.verify us).2 (g.verify vs).2 := by
  by_cases hforeign : ∃ v ∈ vs, g.contains v = false
  · obtain ⟨v, hv⟩ := verify_of_foreign hforeign
    have hforeign' : ∃ v ∈ us, g.contains v = false := by simpa only [h] using hforeign
    obtain ⟨u, hu⟩ := verify_of_foreign hforeign'
    rw [hu, hv]
    exact ⟨rfl, .vertexNotFound u v⟩
  have hcontains : ∀ v ∈ vs, g.contains v = true := fun v hv =>
    Bool.of_not_eq_false fun hfalse => hforeign ⟨v, hv, hfalse⟩
  by_cases hunlisted : ∃ v ∈ vs, g.NeedsUnlisted vs v
  · obtain ⟨a, b, hv⟩ := verify_of_unlisted hcontains hunlisted
    have hcontains' : ∀ v ∈ us, g.contains v = true := by simpa only [h] using hcontains
    have hunlisted' : ∃ v ∈ us, g.NeedsUnlisted us v := by
      simpa only [NeedsUnlisted, h] using hunlisted
    obtain ⟨a', b', hu⟩ := verify_of_unlisted hcontains' hunlisted'
    rw [hu, hv]
    exact ⟨rfl, .missingVertex a' a b' b⟩
  have hclosed : g.Closed vs := ⟨hcontains, fun v hv d hd =>
    Classical.byContradiction fun hnot => hunlisted ⟨v, hv, d, hd, hnot⟩⟩
  have hclosed' : g.Closed us := hclosed.of_sameShape (.refl g) h
  by_cases hcyclic : ∃ v ∈ vs, ¬ ∃ k, g.HasDepth v k
  · obtain ⟨c, hv⟩ := verify_of_cyclic hclosed hcyclic
    obtain ⟨c', hu⟩ := verify_of_cyclic hclosed' (by simpa only [h] using hcyclic)
    rw [hu, hv]
    exact ⟨resetEach_of_mem_iff h, .cycle c' c⟩
  · have hdepth : ∀ v, ∃ k, v ∈ vs → g.HasDepth v k := fun v => by
      by_cases hv : v ∈ vs
      · obtain ⟨k, hk⟩ := Classical.byContradiction fun hnot => hcyclic ⟨v, hv, hnot⟩
        exact ⟨k, fun _ => hk⟩
      · exact ⟨0, fun hmem => absurd hmem hv⟩
    choose f hf using hdepth
    rw [verify_of_hasDepth hclosed' fun v hv => hf v ((h v).mp hv), verify_of_hasDepth hclosed hf,
      foldl_insert_of_mem_iff h]
    exact ⟨foldl_setOrder_of_mem_iff h f, .ok _⟩

end Graph

/-! ## Histories -/

/-- A call that adds no vertex and no edge keeps the shape. -/
theorem Action.sameShape_apply (g : Graph α) {a : Action α} (h : a.keepsShape = true) :
    g.SameShape (a.apply g) := by
  cases a with
  | addVertex name payload => cases h
  | addDependency a b => cases h
  | modifyPayload v f => exact Graph.sameShape_modifyPayload g v f
  | reset v => exact (Graph.onlyOrders_resetEach g [v]).sameShape
  | resetEach vs => exact (Graph.onlyOrders_resetEach g vs).sameShape
  | resetAll => exact Graph.sameShape_resetAll g
  | verify vs => exact (g.effect_verify vs).only.sameShape
  | verifyRoot root => exact (g.effect_verifyRoot root).only.sameShape
  | topologicalSort vs => exact (g.effect_topologicalSort vs).only.sameShape
  | topologicalOrder => exact g.effect_topologicalOrder.only.sameShape
  | resolveOrder v => exact (g.onlyOrders_resolveOrder v).sameShape

/-- A run of such calls keeps the shape. -/
theorem Graph.sameShape_after :
    ∀ {actions : List (Action α)} (g : Graph α), (∀ a ∈ actions, a.keepsShape = true) →
      g.SameShape (g.after actions)
  | [], g, _ => .refl g
  | a :: actions, g, h => by
    have hstep : g.SameShape (a.apply g) := a.sameShape_apply g (h a List.mem_cons_self)
    exact hstep.trans (sameShape_after (a.apply g) fun b hb => h b (List.mem_cons_of_mem a hb))

/-- **The outcome of a verification depends on the edges and the labels of the graph and on the members
of the list.** Lists with the same members lead to the same graph, and to the same orders or to failures
of one kind. Graphs of one shape, as earlier calls leave them, lead to the same result. -/
theorem Graph.outcome_of_shape_and_members (g : Graph α) :
    (∀ us vs : List Nat, (∀ v, v ∈ us ↔ v ∈ vs) →
      (g.verify us).1 = (g.verify vs).1 ∧ Agree (g.verify us).2 (g.verify vs).2) ∧
    (∀ g' : Graph α, g.SameShape g' → ∀ vs, (g'.verify vs).2 = (g.verify vs).2) ∧
    (∀ actions : List (Action α), (∀ a ∈ actions, a.keepsShape = true) →
      ∀ vs, ((g.after actions).verify vs).2 = (g.verify vs).2) :=
  ⟨fun _ _ h => verify_of_mem_iff h, fun _ h vs => verify_of_sameShape h vs,
    fun _ h vs => verify_of_sameShape (g.sameShape_after h) vs⟩

namespace Graph

/-- Two lists of all vertices of the diamond, and a list that lacks one before and after some calls. -/
theorem diamond_agreement :
    (diamond.verify [2, 0, 3, 1, 2]).1 = (diamond.verify [0, 1, 2, 3]).1 ∧
    Agree (lasso.verify [2, 0, 1]).2 (lasso.verify [0, 1, 2, 0]).2 ∧
    ((diamond.setOrder 3 5).verify [1, 2, 3]).2 = (diamond.verify [1, 2, 3]).2 ∧
    ((diamond.after [.verify [3], .verify [0], .reset 3]).verify [0, 1, 2]).2
      = .error (.missingVertex "d" "b") := by
  obtain ⟨hmembers, hshape, hafter⟩ := outcome_of_shape_and_members diamond
  obtain ⟨hlasso, -, -⟩ := outcome_of_shape_and_members lasso
  have hrefused : (diamond.verify [0, 1, 2]).2 = .error (.missingVertex "d" "b") := by cbv
  refine ⟨(hmembers _ _ fun v => ?_).1, (hlasso _ _ fun v => ?_).2, hshape _ ?_ _, ?_⟩
  · simp only [List.mem_cons, List.not_mem_nil, or_false]
    omega
  · simp only [List.mem_cons, List.not_mem_nil, or_false]
    omega
  · exact ((OnlyOrders.refl diamond fun _ => True).setOrder trivial 5).sameShape
  · rw [hafter _ (by decide), hrefused]

end Graph

end Lifecycle
