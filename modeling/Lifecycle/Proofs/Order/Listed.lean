import Lifecycle.Order.Verify
import Mathlib

/-!
# Which lists are refused

`Graph.checkListed` refuses a list before anything is resolved.

* **`checkListed_eq_ok_iff`**: it lets a list pass iff the list is `Graph.Closed`.
* **`checkListed_vertexNotFound_iff`**, **`checkListed_missingVertex_iff`**: what it reports otherwise.
  A foreign handle anywhere in the list comes before an unlisted dependency.
-/

namespace Lifecycle

/-! ## First entries -/

/-- `x` is the first entry of a list that has the property `p`. -/
def IsFirst {β : Type} (p : β → Prop) (xs : List β) (x : β) : Prop :=
  ∃ before after, xs = before ++ x :: after ∧ (∀ y ∈ before, ¬ p y) ∧ p x

theorem find?_eq_some_iff_isFirst {β : Type} {p : β → Prop} {q : β → Bool} {xs : List β} {x : β}
    (hq : ∀ y ∈ xs, q y = true ↔ p y) : xs.find? q = some x ↔ IsFirst p xs x := by
  rw [List.find?_eq_some_iff_append]
  constructor
  · rintro ⟨hx, before, after, rfl, hbefore⟩
    refine ⟨before, after, rfl, fun y hy hp => ?_, (hq x (by simp)).mp hx⟩
    have := hbefore y hy
    rw [(hq y (by simp [hy])).mpr hp] at this
    exact nomatch this
  · rintro ⟨before, after, rfl, hbefore, hx⟩
    refine ⟨(hq x (by simp)).mpr hx, before, after, rfl, fun y hy => ?_⟩
    rw [Bool.not_eq_true', Bool.eq_false_iff]
    exact fun h => hbefore y hy ((hq y (by simp [hy])).mp h)

theorem findSome?_eq_some_iff_isFirst {β γ : Type} {p : β → Prop} {f : β → Option γ} {xs : List β}
    {z : γ} (hf : ∀ y ∈ xs, f y = none ↔ ¬ p y) :
    xs.findSome? f = some z ↔ ∃ x, IsFirst p xs x ∧ f x = some z := by
  rw [List.findSome?_eq_some_iff]
  constructor
  · rintro ⟨before, x, after, rfl, hx, hbefore⟩
    have hpx : p x := Classical.byContradiction fun hnot => by
      rw [(hf x (by simp)).mpr hnot] at hx
      exact nomatch hx
    exact ⟨x, ⟨before, after, rfl, fun y hy => (hf y (by simp [hy])).mp (hbefore y hy), hpx⟩, hx⟩
  · rintro ⟨x, ⟨before, after, rfl, hbefore, -⟩, hx⟩
    exact ⟨before, x, after, rfl, hx, fun y hy => (hf y (by simp [hy])).mpr (hbefore y hy)⟩

namespace Graph

variable {α : Type} {g : Graph α}

/-! ## Closed lists -/

/-- Some dependency of `v` is not listed. -/
def NeedsUnlisted (g : Graph α) (vs : List Nat) (v : Nat) : Prop := ∃ d ∈ g.dependencies v, d ∉ vs

/-- A list of vertices of the graph that holds the dependencies of each of them. -/
structure Closed (g : Graph α) (vs : List Nat) : Prop where
  contains : ∀ v ∈ vs, g.contains v = true
  dependency : ∀ v ∈ vs, ∀ d ∈ g.dependencies v, d ∈ vs

theorem Closed.lt {vs : List Nat} (h : g.Closed vs) : ∀ v ∈ vs, v < g.size := fun v hv =>
  of_decide_eq_true (h.contains v hv)

/-! ## The check -/

/-- The table that marks the listed vertices. -/
theorem getD_foldl_setIfInBounds {d : Nat} :
    ∀ {vs : List Nat} {t : Array Bool},
      (vs.foldl (fun t v => t.setIfInBounds v true) t).getD d false = true ↔
        t.getD d false = true ∨ (d < t.size ∧ d ∈ vs)
  | [], _ => by simp
  | v :: vs, t => by
    rw [List.foldl_cons, getD_foldl_setIfInBounds]
    simp only [Array.getD_eq_getD_getElem?, Array.size_setIfInBounds, List.mem_cons]
    by_cases hv : v = d
    · subst hv
      by_cases hlt : v < t.size <;> simp [hlt]
    · rw [Array.getElem?_setIfInBounds_ne hv]
      simp [Ne.symm hv]

/-- The table of the listed vertices. -/
def listed (g : Graph α) (vs : List Nat) : Array Bool :=
  vs.foldl (fun t v => t.setIfInBounds v true) (Array.replicate g.size false)

theorem listed_getD {vs : List Nat} {d : Nat} (hd : d < g.size) :
    (g.listed vs).getD d false = true ↔ d ∈ vs := by
  rw [listed, getD_foldl_setIfInBounds]
  simp [hd]

theorem not_listed_getD {vs : List Nat} {v d : Nat} (hd : d ∈ g.newestFirst v) :
    (!(g.listed vs).getD d false) = true ↔ d ∉ vs := by
  have hlt : d < g.size := dependency_lt (mem_newestFirst.mp hd)
  rw [← listed_getD hlt, Bool.not_eq_true', Bool.not_eq_true]

theorem unlisted?_eq {vs : List Nat} :
    g.unlisted? vs = vs.findSome? fun v =>
      ((g.newestFirst v).find? fun d => !(g.listed vs).getD d false).map fun d => (v, d) := rfl

/-- The newest dependency of `v` that is not listed. -/
theorem find?_newestFirst {vs : List Nat} {v d : Nat} :
    ((g.newestFirst v).find? fun d => !(g.listed vs).getD d false) = some d ↔
      IsFirst (· ∉ vs) (g.dependencies v).reverse d := by
  rw [dependencies, List.reverse_reverse]
  exact find?_eq_some_iff_isFirst fun _ he => not_listed_getD he

theorem find?_newestFirst_eq_none {vs : List Nat} {v : Nat} :
    ((g.newestFirst v).find? fun d => !(g.listed vs).getD d false) = none ↔
      ¬ g.NeedsUnlisted vs v := by
  rw [List.find?_eq_none]
  constructor
  · rintro h ⟨d, hd, hnot⟩
    have hnewest := mem_newestFirst.mpr hd
    exact h d hnewest ((not_listed_getD hnewest).mpr hnot)
  · intro h d hd ht
    exact h ⟨d, mem_newestFirst.mp hd, (not_listed_getD hd).mp ht⟩

/-- **The first listed vertex that needs an unlisted one**, and the newest such dependency of it. -/
theorem unlisted?_eq_some {vs : List Nat} {v d : Nat} :
    g.unlisted? vs = some (v, d) ↔
      IsFirst (g.NeedsUnlisted vs) vs v ∧ IsFirst (· ∉ vs) (g.dependencies v).reverse d := by
  rw [unlisted?_eq, findSome?_eq_some_iff_isFirst (p := g.NeedsUnlisted vs) fun u _ => by
    rw [Option.map_eq_none_iff, find?_newestFirst_eq_none]]
  constructor
  · rintro ⟨u, hu, hmap⟩
    obtain ⟨e, he, hpair⟩ := Option.map_eq_some_iff.mp hmap
    obtain ⟨rfl, rfl⟩ := Prod.mk.inj hpair
    exact ⟨hu, find?_newestFirst.mp he⟩
  · rintro ⟨hv, hd⟩
    exact ⟨v, hv, Option.map_eq_some_iff.mpr ⟨d, find?_newestFirst.mpr hd, rfl⟩⟩

theorem unlisted?_eq_none {vs : List Nat} :
    g.unlisted? vs = none ↔ ∀ v ∈ vs, ∀ d ∈ g.dependencies v, d ∈ vs := by
  rw [unlisted?_eq, List.findSome?_eq_none_iff]
  refine forall_congr' fun v => forall_congr' fun _ => ?_
  rw [Option.map_eq_none_iff, find?_newestFirst_eq_none, NeedsUnlisted]
  simp

/-- No entry of a list is foreign iff the search for one fails. -/
theorem find?_foreign_eq_none {vs : List Nat} :
    vs.find? (!g.contains ·) = none ↔ ∀ v ∈ vs, g.contains v = true := by
  rw [List.find?_eq_none]
  refine forall_congr' fun v => forall_congr' fun _ => ?_
  cases g.contains v <;> simp

/-- **A list passes the check iff it is closed.** -/
theorem checkListed_eq_ok_iff {vs : List Nat} : g.checkListed vs = .ok () ↔ g.Closed vs := by
  constructor
  · intro h
    unfold checkListed at h
    split at h
    · cases h
    · rename_i hforeign
      split at h
      · cases h
      · rename_i hunlisted
        exact ⟨find?_foreign_eq_none.mp hforeign, unlisted?_eq_none.mp hunlisted⟩
  · rintro ⟨hcontains, hdependency⟩
    rw [checkListed, find?_foreign_eq_none.mpr hcontains, unlisted?_eq_none.mpr hdependency]

/-- **A foreign handle is reported iff there is one**, and the first is. -/
theorem checkListed_vertexNotFound_iff {vs : List Nat} {v : Nat} :
    g.checkListed vs = .error (.vertexNotFound v) ↔ IsFirst (g.contains · = false) vs v := by
  have hfind : vs.find? (!g.contains ·) = some v ↔ IsFirst (g.contains · = false) vs v :=
    find?_eq_some_iff_isFirst fun u _ => by rw [Bool.not_eq_true']
  rw [← hfind]
  unfold checkListed
  split
  · rename_i u hu
    rw [hu]
    simp
  · rename_i hnone
    rw [hnone]
    split <;> simp

/-- **An unlisted dependency is reported iff no entry is foreign and some entry needs one.** -/
theorem checkListed_missingVertex_iff {vs : List Nat} {name requiredBy : String} :
    g.checkListed vs = .error (.missingVertex name requiredBy) ↔
      (∀ v ∈ vs, g.contains v = true) ∧ ∃ v d, IsFirst (g.NeedsUnlisted vs) vs v ∧
        IsFirst (· ∉ vs) (g.dependencies v).reverse d ∧
        name = g.label d ∧ requiredBy = g.label v := by
  unfold checkListed
  constructor
  · intro h
    split at h
    · cases h
    · rename_i hforeign
      split at h
      · rename_i v d hunlisted
        obtain ⟨rfl, rfl⟩ := GraphError.missingVertex.inj (Except.error.inj h)
        obtain ⟨hv, hd⟩ := unlisted?_eq_some.mp hunlisted
        exact ⟨find?_foreign_eq_none.mp hforeign, v, d, hv, hd, rfl, rfl⟩
      · cases h
  · rintro ⟨hcontains, v, d, hv, hd, rfl, rfl⟩
    rw [find?_foreign_eq_none.mpr hcontains, unlisted?_eq_some.mpr ⟨hv, hd⟩]

/-- A list is never refused for a cycle. -/
theorem checkListed_ne_cycle {vs : List Nat} {c : Cycle} : g.checkListed vs ≠ .error (.cycle c) := by
  unfold checkListed
  split
  · simp
  · split <;> simp

end Graph

end Lifecycle
