import Lifecycle.Graph.Basic

/-!
# Walking a graph by plain recursion

Walks over a graph as one would say them, without a stack or a table of marks. Each keeps the vertices
that it has met in a list:

* `Graph.preorder` lists what lies below a vertex, each vertex when it is first met;
* `Graph.recursiveOrder` finds the order of a vertex by following each path from it, and a path that
  comes back to itself is a cycle.

Both end because a vertex that is added to the list was not there (`unmet_append_lt`). They read an
edge as often as they come to it, so they serve to say what the faster walks find and not to find it.
-/

namespace Lifecycle.Graph

variable {α : Type}

/-- How many vertices are not in a list. -/
def unmet (g : Graph α) (met : List Nat) : Nat := g.ids.countP (· ∉ met)

theorem unmet_append_le (g : Graph α) (met more : List Nat) :
    g.unmet (met ++ more) ≤ g.unmet met := by
  refine List.countP_mono_left fun v _ hv => ?_
  simp only [decide_eq_true_eq] at hv ⊢
  exact fun h => hv (List.mem_append_left _ h)

/-- A vertex added to a list that lacks it leaves fewer to meet. -/
theorem unmet_append_lt {g : Graph α} {met : List Nat} {v : Nat} (hv : v < g.size) (h : v ∉ met) :
    g.unmet (met ++ [v]) < g.unmet met := by
  have hle : ∀ us : List Nat, us.countP (· ∉ met ++ [v]) ≤ us.countP (· ∉ met) := fun us => by
    refine List.countP_mono_left fun u _ hu => ?_
    simp only [decide_eq_true_eq] at hu ⊢
    exact fun hmem => hu (List.mem_append_left _ hmem)
  have hmem : v ∈ g.ids := mem_ids.mpr hv
  obtain ⟨us, ws, hids⟩ := List.append_of_mem hmem
  have hus := hle us
  have hws := hle ws
  simp only [unmet, hids, List.countP_append, List.countP_cons]
  simp only [h, not_false_eq_true, decide_true, if_true, List.mem_append, List.mem_singleton,
    or_true, not_true_eq_false, decide_false, Bool.false_eq_true, if_false] at hus hws ⊢
  omega

/-- A foreign handle has no dependencies. -/
theorem dependencies_of_le {g : Graph α} {v : Nat} (h : g.size ≤ v) : g.dependencies v = [] := by
  rw [dependencies, newestFirst, Array.getD_eq_getD_getElem?,
    Array.getElem?_eq_none (by rw [g.newest_size]; exact h)]
  rfl

/-- Going down to a vertex that was not met leaves fewer to meet, or nothing below it. -/
theorem lex_unmet_descend {g : Graph α} {met : List Nat} {v n : Nat} (h : v ∉ met) :
    Prod.Lex (· < ·) (· < ·) (g.unmet (met ++ [v]), (g.dependencies v).length)
      (g.unmet met, n + 1) := by
  rcases Nat.lt_or_eq_of_le (g.unmet_append_le met [v]) with hlt | heq
  · exact Prod.Lex.left _ _ hlt
  · rw [heq]
    have hv : g.size ≤ v := Nat.le_of_not_lt fun hv => by
      have := unmet_append_lt hv h
      omega
    rw [dependencies_of_le hv]
    exact Prod.Lex.right _ (Nat.succ_pos n)

/-- Going on to the next vertex with more vertices met leaves less to do. -/
theorem lex_unmet_next {g : Graph α} {met found : List Nat} {n : Nat} (h : met <+: found) :
    Prod.Lex (· < ·) (· < ·) (g.unmet found, n) (g.unmet met, n + 1) := by
  obtain ⟨more, rfl⟩ := h
  rcases Nat.lt_or_eq_of_le (g.unmet_append_le met more) with hlt | heq
  · exact Prod.Lex.left _ _ hlt
  · rw [heq]; exact Prod.Lex.right _ (Nat.lt_succ_self n)

/-- Visit the listed vertices and what lies below them, unless they were met before. -/
def visitEach (g : Graph α) (met : List Nat) : (vs : List Nat) → { found : List Nat // met <+: found }
  | [] => ⟨met, List.prefix_refl _⟩
  | v :: vs =>
    if _h : v ∈ met then g.visitEach met vs
    else
      let below := g.visitEach (met ++ [v]) (g.dependencies v)
      let found := g.visitEach below.1 vs
      ⟨found.1, (List.prefix_append met [v]).trans (below.2.trans found.2)⟩
termination_by vs => (g.unmet met, vs.length)
decreasing_by
  · exact Prod.Lex.right _ (Nat.lt_succ_self _)
  · exact lex_unmet_descend _h
  · exact lex_unmet_next ((List.prefix_append met [v]).trans below.2)

/-- **What lies below a vertex**, the vertex first, in the order of a recursive walk. -/
def preorder (g : Graph α) (root : Nat) : List Nat := (g.visitEach [] [root]).1

/-- The order of a vertex at the end of a path, given the dependencies still to read and the order so
far; or the cycle that one of the paths from it runs into. -/
def orderOver (g : Graph α) (path : List Nat) :
    (rest : List Nat) → (order : Nat) → Except (List Nat) Nat
  | [], order => .ok order
  | d :: ds, order =>
    if _h : d ∈ path then .error (path.dropWhile (· != d) ++ [d])
    else
      match g.orderOver (path ++ [d]) (g.dependencies d) 0 with
      | .error cycle => .error cycle
      | .ok k => g.orderOver path ds (max order (k + 1))
termination_by rest => (g.unmet path, rest.length)
decreasing_by
  · exact lex_unmet_descend _h
  · exact Prod.Lex.right _ (Nat.lt_succ_self _)

/-- **The order of a vertex by plain recursion**: 0 without dependencies, one more than the highest
order of its dependencies otherwise; or the first cycle that the recursion runs into. -/
def recursiveOrder (g : Graph α) (v : Nat) : Except (List Nat) Nat :=
  g.orderOver [v] (g.dependencies v) 0

end Lifecycle.Graph
