import Lifecycle.Proofs.Graph.Closure
import Lifecycle.Proofs.Order.Outcome

/-!
# Reported cycles are cycles

* **`genuine_of_cycle`**: whichever call reports a cycle, the report runs once around a cycle of the
  graph that lies below what the call was asked about (`Graph.Genuine`).
-/

namespace Lifecycle.Graph

variable {α : Type} {g : Graph α}

/-- A report of a cycle on or below `starts`: the vertices are different but for the closing repeat,
each depends directly on the next, and the labels stand beside them. -/
def Genuine (g : Graph α) (starts : List Nat) (c : Cycle) : Prop :=
  ∃ v rest, c.vertices = v :: rest ++ [v] ∧ (v :: rest).Nodup ∧ g.IsPath c.vertices ∧
    (∀ u ∈ v :: rest, ∃ s ∈ starts, g.Reaches s u) ∧
    c.path = c.vertices.map g.label ∧ c.participants = v :: rest

theorem genuine_cycleOf {starts us : List Nat} (h : g.IsCycle us)
    (hbelow : ∀ u ∈ us, ∃ s ∈ starts, g.Reaches s u) : g.Genuine starts (g.cycleOf us) := by
  obtain ⟨v, rest, rfl, hn, hp⟩ := h
  refine ⟨v, rest, rfl, hn, hp, fun u hu => hbelow u (List.mem_append_left [v] hu), rfl, ?_⟩
  have hdrop : (v :: rest ++ [v]).dropLast = v :: rest := List.dropLast_concat
  simp only [Cycle.participants, cycleOf, hdrop]
  rfl

theorem Genuine.mono {starts starts' : List Nat} {c : Cycle} (h : g.Genuine starts c)
    (hsub : ∀ s ∈ starts, ∃ s' ∈ starts', g.Reaches s' s) : g.Genuine starts' c := by
  obtain ⟨v, rest, hvertices, hn, hp, hbelow, hpath, hparticipants⟩ := h
  refine ⟨v, rest, hvertices, hn, hp, fun u hu => ?_, hpath, hparticipants⟩
  obtain ⟨s, hs, hr⟩ := hbelow u hu
  obtain ⟨s', hs', hr'⟩ := hsub s hs
  exact ⟨s', hs', hr'.trans hr⟩

theorem genuine_of_verify {vs : List Nat} {c : Cycle}
    (h : (g.verify vs).2 = .error (.cycle c)) : g.Genuine vs c := by
  obtain ⟨-, us, hus, rfl⟩ := verify_eq_cycle_iff.mp h
  obtain ⟨hcycle, hbelow⟩ := isCycle_of_findSome? hus
  exact genuine_cycleOf hcycle hbelow

/-- Sorting fails as verifying does. -/
theorem topologicalSort_eq_error_iff {vs : List Nat} {e : GraphError} :
    (g.topologicalSort vs).2 = .error e ↔ (g.verify vs).2 = .error e := by
  obtain ⟨g', r, hverify⟩ : ∃ g' r, g.verify vs = (g', r) := ⟨_, _, rfl⟩
  rw [topologicalSort, hverify]
  cases r with
  | error e' => exact Iff.of_eq (by simp)
  | ok o => simp

theorem topologicalOrder_eq_error_iff {e : GraphError} :
    g.topologicalOrder.2 = .error e ↔ (g.topologicalSort g.ids).2 = .error e := by
  obtain ⟨g', r, hsort⟩ : ∃ g' r, g.topologicalSort g.ids = (g', r) := ⟨_, _, rfl⟩
  rw [topologicalOrder, hsort]
  cases r with
  | error e' => exact Iff.of_eq (by simp)
  | ok p => simp

theorem genuine_of_verifyRoot {root : Nat} {c : Cycle}
    (h : (g.verifyRoot root).2 = .error (.cycle c)) : g.Genuine [root] c := by
  unfold verifyRoot at h
  split at h
  · rename_i e he
    unfold transitiveClosure at he
    split at he
    · cases he
    · obtain rfl := Except.error.inj he
      cases h
  · rename_i vs hvs
    refine (genuine_of_verify h).mono fun s hs => ?_
    exact ⟨root, List.mem_singleton_self root, reaches_of_mem_transitiveClosure hvs hs⟩

theorem genuine_of_resolveOrder {v : Nat} {c : Cycle}
    (h : (g.resolveOrder v).2 = .error (.cycle c)) : g.Genuine [v] c := by
  rcases g.resolveOrder_cases v with ⟨-, hres⟩ | ⟨-, us, hus, hres⟩ | ⟨-, k, -, hres⟩
  · rw [hres] at h
    exact nomatch h
  · rw [hres] at h
    obtain rfl := GraphError.cycle.inj (Except.error.inj h)
    have hfirst : [v].findSome? g.cycleFrom? = some us := by rw [List.findSome?_singleton, hus]
    obtain ⟨hcycle, hbelow⟩ := isCycle_of_findSome? hfirst
    exact genuine_cycleOf hcycle hbelow
  · rw [hres] at h
    exact nomatch h

/-- **Every reported cycle is a cycle of the graph**, on or below the listed vertices or the root. -/
theorem genuine_of_cycle (g : Graph α) :
    (∀ vs c, (g.verify vs).2 = .error (.cycle c) → g.Genuine vs c) ∧
    (∀ vs c, (g.topologicalSort vs).2 = .error (.cycle c) → g.Genuine vs c) ∧
    (∀ root c, (g.verifyRoot root).2 = .error (.cycle c) → g.Genuine [root] c) ∧
    (∀ v c, (g.resolveOrder v).2 = .error (.cycle c) → g.Genuine [v] c) ∧
    (∀ c, g.topologicalOrder.2 = .error (.cycle c) → g.Genuine g.ids c) := by
  refine ⟨fun vs c h => genuine_of_verify h, fun vs c h => ?_, fun root c h =>
    genuine_of_verifyRoot h, fun v c h => genuine_of_resolveOrder h, fun c h => ?_⟩
  · exact genuine_of_verify (topologicalSort_eq_error_iff.mp h)
  · rw [topologicalOrder_eq_error_iff] at h
    exact genuine_of_verify (topologicalSort_eq_error_iff.mp h)

/-- Three vertices: `a` needs `b`, and `b` and `c` need each other. -/
def lasso : Graph Unit :=
  [(0, 1), (1, 2), (2, 1)].foldl (fun g e => g.link e.1 e.2)
    (["a", "b", "c"].foldl (fun g name => g.addVertex name ()) empty)

/-- Every call that starts at `a` reports the cycle one step below it. -/
theorem lasso_genuine : ∃ c, c.vertices = [1, 2, 1] ∧
    ((lasso.verify [0, 1, 2]).2 = .error (.cycle c) ∧ lasso.Genuine [0, 1, 2] c) ∧
    ((lasso.topologicalSort [0, 1, 2]).2 = .error (.cycle c) ∧ lasso.Genuine [0, 1, 2] c) ∧
    ((lasso.verifyRoot 0).2 = .error (.cycle c) ∧ lasso.Genuine [0] c) ∧
    ((lasso.resolveOrder 0).2 = .error (.cycle c) ∧ lasso.Genuine [0] c) ∧
    (lasso.topologicalOrder.2 = .error (.cycle c) ∧ lasso.Genuine lasso.ids c) := by
  obtain ⟨hverify, hsort, hroot, hresolve, horder⟩ := genuine_of_cycle lasso
  have h₁ : (lasso.verify [0, 1, 2]).2 = .error (.cycle ⟨["b", "c", "b"], [1, 2, 1]⟩) := by cbv
  have h₂ : (lasso.topologicalSort [0, 1, 2]).2
      = .error (.cycle ⟨["b", "c", "b"], [1, 2, 1]⟩) := by cbv
  have h₃ : (lasso.verifyRoot 0).2 = .error (.cycle ⟨["b", "c", "b"], [1, 2, 1]⟩) := by cbv
  have h₄ : (lasso.resolveOrder 0).2 = .error (.cycle ⟨["b", "c", "b"], [1, 2, 1]⟩) := by cbv
  have h₅ : lasso.topologicalOrder.2 = .error (.cycle ⟨["b", "c", "b"], [1, 2, 1]⟩) := by cbv
  exact ⟨_, rfl, ⟨h₁, hverify _ _ h₁⟩, ⟨h₂, hsort _ _ h₂⟩, ⟨h₃, hroot _ _ h₃⟩,
    ⟨h₄, hresolve _ _ h₄⟩, h₅, horder _ h₅⟩

end Lifecycle.Graph
