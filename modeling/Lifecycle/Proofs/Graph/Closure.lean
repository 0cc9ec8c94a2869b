import Lifecycle.Graph.Closure
import Lifecycle.Proofs.Graph.Path
import Mathlib

/-!
# What a transitive closure lists

* `reaches_of_mem_transitiveClosure`: a vertex in the transitive closure of a root lies on or below it.
* **`mem_transitiveClosure_iff`**: and every such vertex is in it. The walk keeps that what is below a
  vertex it has met was met too or stands on the stack (`Searching`).
-/

namespace Lifecycle.Graph

variable {α : Type} {g : Graph α}

/-- A walk from vertices on or below `root` meets such vertices only. -/
theorem reaches_of_mem_collect {root v : Nat} {seen : Array Bool} {stack found : List Nat}
    (hstack : ∀ u ∈ stack, g.Reaches root u) (hfound : ∀ u ∈ found, g.Reaches root u)
    (hv : v ∈ g.collect seen stack found) : g.Reaches root v := by
  fun_induction g.collect seen stack found with
  | case1 seen found => exact hfound v hv
  | case2 seen found u rest _ seen' fresh ih =>
    have hu : g.Reaches root u := hstack u List.mem_cons_self
    refine ih (fun w hw => ?_) (fun w hw => ?_) hv
    · rcases List.mem_append.mp hw with hw | hw
      · exact hu.tail (List.mem_filter.mp hw).1
      · exact hstack w (List.mem_cons_of_mem u hw)
    · rcases List.mem_cons.mp hw with rfl | hw
      · exact hu
      · exact hfound w hw
  | case3 seen found u rest _ ih =>
    exact ih (fun w hw => hstack w (List.mem_cons_of_mem u hw)) hfound hv

/-- **A transitive closure lists what lies on or below its root.** -/
theorem reaches_of_mem_transitiveClosure {root v : Nat} {vs : List Nat}
    (h : g.transitiveClosure root = .ok vs) (hv : v ∈ vs) : g.Reaches root v := by
  unfold transitiveClosure at h
  split at h
  · obtain rfl := Except.ok.inj h
    rw [List.mem_reverse] at hv
    refine reaches_of_mem_collect (fun u hu => ?_) (fun u hu => ?_) hv
    · rw [List.mem_singleton.mp hu]
    · exact absurd hu List.not_mem_nil
  · cases h

/-! ## What a walk still has to visit -/

/-- A walk from `root`: the seen vertices are those found, and a dependency of a found vertex was found
too or is still to visit. -/
structure Searching (g : Graph α) (root : Nat) (seen : Array Bool) (stack found : List Nat) : Prop where
  size : seen.size = g.size
  stack_lt : ∀ v ∈ stack, v < g.size
  seen_iff : ∀ v < g.size, seen.getD v true = true ↔ v ∈ found
  root_mem : root ∈ found ∨ root ∈ stack
  below : ∀ v ∈ found, ∀ d ∈ g.dependencies v, d ∈ found ∨ d ∈ stack

theorem Searching.start {root : Nat} (h : root < g.size) :
    g.Searching root (Array.replicate g.size false) [root] [] where
  size := Array.size_replicate
  stack_lt := fun v hv => by
    rw [List.mem_singleton.mp hv]
    exact h
  seen_iff := fun v hv => by simp [Array.getD_eq_getD_getElem?, hv]
  root_mem := Or.inr (List.mem_singleton_self root)
  below := fun v hv => absurd hv List.not_mem_nil

/-- A vertex that was seen before is dropped from the stack. -/
theorem Searching.skip {root v : Nat} {seen : Array Bool} {stack found : List Nat}
    (h : g.Searching root seen (v :: stack) found) (hv : v ∈ found) :
    g.Searching root seen stack found where
  size := h.size
  stack_lt := fun u hu => h.stack_lt u (List.mem_cons_of_mem v hu)
  seen_iff := h.seen_iff
  root_mem := by
    rcases h.root_mem with hr | hr
    · exact Or.inl hr
    · rcases List.mem_cons.mp hr with rfl | hr
      · exact Or.inl hv
      · exact Or.inr hr
  below := fun u hu d hd => by
    rcases h.below u hu d hd with hf | hs
    · exact Or.inl hf
    · rcases List.mem_cons.mp hs with rfl | hs
      · exact Or.inl hv
      · exact Or.inr hs

/-- A vertex that was not seen is found, and its dependencies that were not seen are stacked. -/
theorem Searching.visit {root v : Nat} {seen : Array Bool} {stack found : List Nat}
    (h : g.Searching root seen (v :: stack) found) :
    g.Searching root (seen.setIfInBounds v true)
      (((g.dependencies v).filter fun d => !(seen.setIfInBounds v true).getD d true) ++ stack)
      (v :: found) := by
  have hv : v < g.size := h.stack_lt v List.mem_cons_self
  have hseen : ∀ u < g.size,
      (seen.setIfInBounds v true).getD u true = true ↔ u ∈ v :: found := fun u hu => by
    rw [List.mem_cons, ← h.seen_iff u hu, Array.getD_eq_getD_getElem?, Array.getD_eq_getD_getElem?]
    by_cases hne : v = u
    · subst hne
      simp [h.size, hv]
    · rw [Array.getElem?_setIfInBounds_ne hne]
      simp [Ne.symm hne]
  refine ⟨by rw [Array.size_setIfInBounds]; exact h.size, fun u hu => ?_, hseen, ?_, fun u hu d hd => ?_⟩
  · rcases List.mem_append.mp hu with hu | hu
    · exact dependency_lt (List.mem_filter.mp hu).1
    · exact h.stack_lt u (List.mem_cons_of_mem v hu)
  · rcases h.root_mem with hr | hr
    · exact Or.inl (List.mem_cons_of_mem v hr)
    · rcases List.mem_cons.mp hr with rfl | hr
      · exact Or.inl List.mem_cons_self
      · exact Or.inr (List.mem_append_right _ hr)
  · rcases List.mem_cons.mp hu with rfl | hu
    · by_cases hmark : (seen.setIfInBounds u true).getD d true = true
      · exact Or.inl ((hseen d (dependency_lt hd)).mp hmark)
      · exact Or.inr (List.mem_append_left _ (List.mem_filter.mpr ⟨hd, by simp [hmark]⟩))
    · rcases h.below u hu d hd with hf | hs
      · exact Or.inl (List.mem_cons_of_mem v hf)
      · rcases List.mem_cons.mp hs with rfl | hs
        · exact Or.inl List.mem_cons_self
        · exact Or.inr (List.mem_append_right _ hs)

/-- **A walk ends with the root and all dependencies of what it found.** -/
theorem Searching.collect {root : Nat} {seen : Array Bool} {stack found : List Nat}
    (h : g.Searching root seen stack found) :
    root ∈ g.collect seen stack found ∧
      ∀ v ∈ g.collect seen stack found, ∀ d ∈ g.dependencies v,
        d ∈ g.collect seen stack found := by
  fun_induction g.collect seen stack found with
  | case1 seen found =>
    have hnil : ∀ d, d ∈ found ∨ d ∈ [] → d ∈ found := fun d hd =>
      hd.resolve_right List.not_mem_nil
    exact ⟨hnil root h.root_mem, fun v hv d hd => hnil d (h.below v hv d hd)⟩
  | case2 seen found v rest _ seen' fresh ih => exact ih h.visit
  | case3 seen found v rest hseen ih =>
    have hv : v < g.size := h.stack_lt v List.mem_cons_self
    rw [Bool.not_eq_false] at hseen
    exact ih (h.skip ((h.seen_iff v hv).mp hseen))

/-- The vertices of the graph have transitive closures, and foreign handles have none. -/
theorem exists_transitiveClosure_iff {root : Nat} :
    (∃ vs, g.transitiveClosure root = .ok vs) ↔ root < g.size := by
  have hcontains : g.contains root = true ↔ root < g.size := decide_eq_true_iff
  rw [← hcontains]
  unfold transitiveClosure
  cases g.contains root <;> simp

/-- **The transitive closure of a root is what lies on or below it.** -/
theorem mem_transitiveClosure_iff {root v : Nat} {vs : List Nat}
    (h : g.transitiveClosure root = .ok vs) : v ∈ vs ↔ g.Reaches root v := by
  refine ⟨reaches_of_mem_transitiveClosure h, fun hr => ?_⟩
  unfold transitiveClosure at h
  split at h
  · rename_i hroot
    obtain rfl := Except.ok.inj h
    obtain ⟨hmem, hclosed⟩ := (Searching.start (of_decide_eq_true hroot)).collect
    rw [List.mem_reverse]
    exact hr.mem_of_closed hclosed hmem
  · cases h

end Lifecycle.Graph
