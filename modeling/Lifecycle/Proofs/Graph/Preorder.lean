import Lifecycle.Graph.Recursion
import Lifecycle.Proofs.Graph.Closure
import Mathlib

/-!
# A transitive closure is a pre-order

The search of `Graph.transitiveClosure` keeps the vertices still to visit on a stack, some of them
more than once, and `Graph.preorder` recurses into one dependency after the other.

* `visitEach_append` and `visitEach_filter`: the recursion visits a list in two parts as in one, and a
  vertex that it has met may be left out. So what stands on the stack twice does no harm.
* **`Searching.reverse_collect`**: from any state of the search on, both list the same vertices in the
  same order.
* **`transitiveClosure_eq_preorder`**: hence a closure is the pre-order of what lies on or below its
  root.
-/

namespace Lifecycle.Graph

variable {α : Type} {g : Graph α}

/-! ## The recursive walk -/

@[simp] theorem visitEach_nil (g : Graph α) (met : List Nat) : (g.visitEach met []).1 = met := by
  rw [visitEach]

/-- A vertex that was met before is skipped. -/
theorem visitEach_of_mem {met vs : List Nat} {v : Nat} (hv : v ∈ met) :
    (g.visitEach met (v :: vs)).1 = (g.visitEach met vs).1 := by
  rw [visitEach, dif_pos hv]

/-- A vertex that was not met comes first, then what is below it, then the others. -/
theorem visitEach_of_not_mem {met vs : List Nat} {v : Nat} (hv : v ∉ met) :
    (g.visitEach met (v :: vs)).1
      = (g.visitEach (g.visitEach (met ++ [v]) (g.dependencies v)).1 vs).1 := by
  rw [visitEach, dif_neg hv]

/-- What was met stays met. -/
theorem mem_visitEach {met vs : List Nat} {v : Nat} (hv : v ∈ met) : v ∈ (g.visitEach met vs).1 :=
  (g.visitEach met vs).2.subset hv

theorem visitEach_append {us vs met : List Nat} :
    (g.visitEach met (us ++ vs)).1 = (g.visitEach (g.visitEach met us).1 vs).1 := by
  induction us generalizing met with
  | nil => rw [visitEach_nil, List.nil_append]
  | cons u us ih =>
    rw [List.cons_append]
    by_cases hu : u ∈ met
    · rw [visitEach_of_mem hu, visitEach_of_mem hu, ih]
    · rw [visitEach_of_not_mem hu, visitEach_of_not_mem hu, ih]

/-- A vertex that was met before may be left out of the list. -/
theorem visitEach_filter {p : Nat → Bool} {ds met : List Nat}
    (h : ∀ d ∈ ds, p d = false → d ∈ met) :
    (g.visitEach met (ds.filter p)).1 = (g.visitEach met ds).1 := by
  induction ds generalizing met with
  | nil => rfl
  | cons d ds ih =>
    have hds : ∀ e ∈ ds, p e = false → e ∈ met := fun e he => h e (List.mem_cons_of_mem d he)
    by_cases hd : d ∈ met
    · rw [visitEach_of_mem hd, List.filter_cons]
      split
      · rw [visitEach_of_mem hd, ih hds]
      · exact ih hds
    · have hkeep : p d = true := by
        by_contra hp
        exact hd (h d List.mem_cons_self (by simpa using hp))
      rw [List.filter_cons_of_pos hkeep, visitEach_of_not_mem hd, visitEach_of_not_mem hd]
      refine ih fun e he hp => mem_visitEach ?_
      exact List.mem_append_left [d] (hds e he hp)

/-- No vertex is listed twice. -/
theorem nodup_visitEach {met vs : List Nat} (h : met.Nodup) : (g.visitEach met vs).1.Nodup := by
  fun_induction g.visitEach met vs with
  | case1 met => exact h
  | case2 met v vs hv ih => exact ih h
  | case3 met v vs hv below found ihbelow ihfound =>
    refine ihfound (ihbelow ?_)
    rw [← List.concat_eq_append, List.nodup_concat]
    exact ⟨hv, h⟩

/-! ## The search with a stack -/

/-- Stack a vertex unless it was seen. -/
def pushUnseen (seen : Array Bool) (stack : List Nat) (d : Nat) : List Nat :=
  if seen.getD d true then stack else d :: stack

/-- Vertices that are stacked one by one stand on the stack the other way round. -/
theorem foldl_pushUnseen {seen : Array Bool} {ds stack : List Nat} :
    ds.foldl (pushUnseen seen) stack = ds.reverse.filter (fun d => !seen.getD d true) ++ stack := by
  induction ds generalizing stack with
  | nil => rfl
  | cons d ds ih =>
    rw [List.foldl_cons, ih, List.reverse_cons, List.filter_append, List.append_assoc]
    unfold pushUnseen
    by_cases hd : seen.getD d true = true
    · simp only [hd, if_true, Bool.not_true, Bool.false_eq_true, not_false_eq_true,
        List.filter_cons_of_neg, List.filter_nil, List.nil_append]
    · simp only [hd, if_false, Bool.not_false, List.filter_cons_of_pos, List.filter_nil,
        List.singleton_append, Bool.false_eq_true]

/-- **A step of the search**: the top of the stack is taken; a vertex that was not seen is found, and
its dependencies are stacked one by one, the newest first. -/
theorem collect_cons (g : Graph α) (seen : Array Bool) (v : Nat) (rest found : List Nat) :
    g.collect seen (v :: rest) found =
      if seen.getD v true = false then
        g.collect (seen.setIfInBounds v true)
          ((g.newestFirst v).foldl (pushUnseen (seen.setIfInBounds v true)) rest) (v :: found)
      else g.collect seen rest found := by
  rw [collect, foldl_pushUnseen]
  rfl

/-- **The search goes on as the recursion does** from what it has found, over the whole stack. -/
theorem Searching.reverse_collect {root : Nat} {seen : Array Bool} {stack found : List Nat}
    (h : g.Searching root seen stack found) :
    (g.collect seen stack found).reverse = (g.visitEach found.reverse stack).1 := by
  fun_induction g.collect seen stack found with
  | case1 seen found => rw [visitEach_nil]
  | case2 seen found v rest hseen seen' fresh ih =>
    have hv : v < g.size := h.stack_lt v List.mem_cons_self
    have hnot : v ∉ found.reverse := fun hmem => by
      rw [(h.seen_iff v hv).mpr (List.mem_reverse.mp hmem)] at hseen
      cases hseen
    -- a dependency that is not stacked was found before, so the recursion would skip it
    have hmet : ∀ d ∈ g.dependencies v, (!seen'.getD d true) = false →
        d ∈ found.reverse ++ [v] := fun d hd hmark => by
      rw [← List.reverse_cons, List.mem_reverse, ← h.visit.seen_iff d (dependency_lt hd)]
      simpa using hmark
    rw [ih h.visit, List.reverse_cons, visitEach_append, visitEach_filter hmet,
      visitEach_of_not_mem hnot]
  | case3 seen found v rest hseen ih =>
    have hv : v < g.size := h.stack_lt v List.mem_cons_self
    have hfound : v ∈ found := (h.seen_iff v hv).mp (Bool.of_not_eq_false hseen)
    rw [ih (h.skip hfound), visitEach_of_mem (List.mem_reverse.mpr hfound)]

/-! ## Closures -/

theorem transitiveClosure_of_lt {root : Nat} (h : root < g.size) :
    g.transitiveClosure root = .ok (g.preorder root) := by
  have hcontains : g.contains root = true := decide_eq_true h
  rw [transitiveClosure, if_pos hcontains, (Searching.start h).reverse_collect]
  rfl

/-- A pre-order starts at its root. -/
theorem head?_preorder (g : Graph α) (root : Nat) : (g.preorder root).head? = some root := by
  have hroot : (g.preorder root) = (g.visitEach [root] (g.dependencies root)).1 := by
    rw [preorder, visitEach_of_not_mem List.not_mem_nil, visitEach_nil, List.nil_append]
  obtain ⟨below, hbelow⟩ := (g.visitEach [root] (g.dependencies root)).2
  rw [hroot, ← hbelow]
  rfl

theorem nodup_preorder (g : Graph α) (root : Nat) : (g.preorder root).Nodup :=
  nodup_visitEach List.nodup_nil

theorem mem_preorder_iff {root v : Nat} (h : root < g.size) :
    v ∈ g.preorder root ↔ g.Reaches root v :=
  mem_transitiveClosure_iff (transitiveClosure_of_lt h)

/-- **A transitive closure is the recursive pre-order of what lies on or below the root**, each vertex
once and the root first, although the search stacks the dependencies of a vertex newest first. A
foreign handle has none. -/
theorem transitiveClosure_eq_preorder (g : Graph α) (root : Nat) :
    (∀ seen v rest found, g.collect seen (v :: rest) found =
      if seen.getD v true = false then
        g.collect (seen.setIfInBounds v true)
          ((g.newestFirst v).foldl (pushUnseen (seen.setIfInBounds v true)) rest) (v :: found)
      else g.collect seen rest found) ∧
    (g.contains root = true → g.transitiveClosure root = .ok (g.preorder root) ∧
      (g.preorder root).head? = some root ∧ (g.preorder root).Nodup ∧
      ∀ v, v ∈ g.preorder root ↔ g.Reaches root v) ∧
    (g.contains root = false → g.transitiveClosure root = .error (.vertexNotFound root)) := by
  refine ⟨g.collect_cons, fun h => ?_, fun h => ?_⟩
  · have hroot : root < g.size := of_decide_eq_true h
    exact ⟨transitiveClosure_of_lt hroot, g.head?_preorder root, g.nodup_preorder root,
      fun _ => mem_preorder_iff hroot⟩
  · rw [transitiveClosure, h]
    rfl

/-- Four vertices on a cycle: `a` needs `b` and `c`, `b` needs `d`, `d` needs `c`, which needs `a`. -/
def detour : Graph Unit :=
  [(0, 1), (0, 2), (1, 3), (3, 2), (2, 0)].foldl (fun g e => g.link e.1 e.2)
    (["a", "b", "c", "d"].foldl (fun g name => g.addVertex name ()) empty)

/-- From `a` the search stacks `c` at once and again below `d`, where it belongs. -/
theorem detour_preorder :
    detour.transitiveClosure 0 = .ok [0, 1, 3, 2] ∧ detour.preorder 0 = [0, 1, 3, 2] ∧
    detour.Reaches 0 2 ∧ detour.transitiveClosure 4 = .error (.vertexNotFound 4) := by
  obtain ⟨-, hroot, -⟩ := transitiveClosure_eq_preorder detour 0
  obtain ⟨-, -, hforeign⟩ := transitiveClosure_eq_preorder detour 4
  obtain ⟨hclosure, -, -, hmem⟩ := hroot (by decide)
  have hpreorder : detour.preorder 0 = [0, 1, 3, 2] := by cbv
  rw [hpreorder] at hclosure hmem
  exact ⟨hclosure, hpreorder, (hmem 2).mp (by decide), hforeign (by decide)⟩

end Lifecycle.Graph
