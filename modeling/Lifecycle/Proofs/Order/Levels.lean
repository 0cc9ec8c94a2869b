import Lifecycle.Proofs.Order.Outcome
import Mathlib

/-!
# Levels

The vertices of a verified list stand on levels, by the length of the longest chain below them.

* `HasDepth.exists_of_le`: below a vertex of some depth there are vertices of every smaller depth.
* **`levels_without_gaps`**: so the levels of a list that passes run from 0 to the longest chain through
  its vertices (`Graph.HasHeight`) without a gap, and there are at least as many vertices as levels.
-/

namespace Lifecycle

/-! ## The highest order of a table -/

namespace Orders

variable {o : Orders}

theorem mem_map_snd_toList {k : Nat} : k ∈ o.toList.map Prod.snd ↔ ∃ v, o.get? v = some k := by
  simp [List.mem_map]

/-- A table has no highest order iff it assigns none. -/
theorem max?_eq_none_iff : o.max? = none ↔ ∀ v, o.get? v = none := by
  rw [max?, List.max?_eq_none_iff, List.eq_nil_iff_forall_not_mem]
  simp only [mem_map_snd_toList, not_exists, Option.eq_none_iff_forall_ne_some]
  exact forall_comm

/-- **The highest order of a table** is one that it assigns, and no other is higher. -/
theorem max?_eq_some_iff {m : Nat} :
    o.max? = some m ↔ (∃ v, o.get? v = some m) ∧ ∀ v k, o.get? v = some k → k ≤ m := by
  rw [max?, List.max?_eq_some_iff, mem_map_snd_toList]
  refine and_congr_right fun _ => ?_
  constructor
  · intro h v k hk
    exact h k (mem_map_snd_toList.mpr ⟨v, hk⟩)
  · intro h k hk
    obtain ⟨v, hv⟩ := mem_map_snd_toList.mp hk
    exact h v k hv

end Orders

namespace Graph

variable {α : Type} {g : Graph α}

/-! ## Depths below a vertex -/

/-- A vertex of some depth has a dependency on the level below. -/
theorem HasDepth.exists_dependency {v k : Nat} (h : g.HasDepth v (k + 1)) :
    ∃ d ∈ g.dependencies v, g.HasDepth d k := by
  obtain ⟨path, hp, hlength⟩ := h.attained
  cases path with
  | nil => simp at hlength
  | cons d path =>
    obtain ⟨hd, hrest⟩ := List.isChain_cons_cons.mp hp
    obtain ⟨n, hn, hdepth⟩ := h.related hd
    have hle : path.length ≤ n := hdepth.bounded path hrest
    obtain rfl : n = k := by
      rw [List.length_cons] at hlength
      omega
    exact ⟨d, hd, hdepth⟩

/-- **Below a vertex of some depth there are vertices of every smaller depth.** -/
theorem HasDepth.exists_of_le {v k m : Nat} (h : g.HasDepth v m) (hk : k ≤ m) :
    ∃ u, g.Reaches v u ∧ g.HasDepth u k := by
  induction m generalizing v with
  | zero =>
    obtain rfl : k = 0 := by omega
    exact ⟨v, .refl, h⟩
  | succ m ih =>
    by_cases hlast : k = m + 1
    · subst hlast
      exact ⟨v, .refl, h⟩
    · obtain ⟨d, hd, hdepth⟩ := h.exists_dependency
      obtain ⟨u, hu, hlevel⟩ := ih hdepth (by omega)
      exact ⟨u, .head hd hu, hlevel⟩

/-! ## Levels of a list -/

/-- The longest path through listed vertices has that many edges. -/
structure HasHeight (g : Graph α) (vs : List Nat) (height : Nat) : Prop where
  attained : ∃ v path, (∀ u ∈ v :: path, u ∈ vs) ∧ g.IsPath (v :: path) ∧ path.length = height
  bounded : ∀ v path, (∀ u ∈ v :: path, u ∈ vs) → g.IsPath (v :: path) → path.length ≤ height

/-- A path from a listed vertex of a closed list stays in the list. -/
theorem Closed.mem_of_isPath {vs path : List Nat} {v : Nat} (h : g.Closed vs) (hv : v ∈ vs)
    (hp : g.IsPath (v :: path)) : ∀ u ∈ v :: path, u ∈ vs := by
  intro u hu
  have hr : g.Reaches v u := Chain.reaches_of_mem hp hu
  exact hr.mem_of_closed h.dependency hv

/-- **The highest depth in a closed list is its height.** -/
theorem hasHeight_of_hasDepth {vs : List Nat} {f : Nat → Nat} {v : Nat} (h : g.Closed vs)
    (hf : ∀ u ∈ vs, g.HasDepth u (f u)) (hv : v ∈ vs) (hmax : ∀ u ∈ vs, f u ≤ f v) :
    g.HasHeight vs (f v) where
  attained := by
    obtain ⟨path, hp, hlength⟩ := (hf v hv).attained
    exact ⟨v, path, h.mem_of_isPath hv hp, hp, hlength⟩
  bounded := by
    intro u path hlisted hp
    have hu : u ∈ vs := hlisted u List.mem_cons_self
    have hle : path.length ≤ f u := (hf u hu).bounded path hp
    have hfu : f u ≤ f v := hmax u hu
    omega

/-- A path from a vertex that has a depth fits into any list that holds it. -/
theorem HasDepth.lt_card {vs : List Nat} {v k : Nat} (h : g.HasDepth v k) (hclosed : g.Closed vs)
    (hv : v ∈ vs) : k < vs.toFinset.card := by
  obtain ⟨path, hp, rfl⟩ := h.attained
  have hnodup : (v :: path).Nodup := h.nodup hp
  have hsub : (v :: path).toFinset ⊆ vs.toFinset := by
    intro u hu
    rw [List.mem_toFinset] at hu ⊢
    exact hclosed.mem_of_isPath hv hp u hu
  have hcard := Finset.card_le_card hsub
  rw [List.toFinset_card_of_nodup hnodup, List.length_cons] at hcard
  omega

/-- **The levels of a list that passes have no gap.** A list without entries has no level. Otherwise
the highest level is the length of the longest chain through listed vertices, on every level up to it
stands a listed vertex, and there are at least as many listed vertices as levels. -/
theorem levels_without_gaps {vs : List Nat} {o : Orders} (h : (g.verify vs).2 = .ok o) :
    (o.max? = none ↔ vs = []) ∧
    ∀ m, o.max? = some m →
      g.HasHeight vs m ∧ (∀ k ≤ m, ∃ v ∈ vs, o.get? v = some k) ∧ m + 1 ≤ o.size := by
  obtain ⟨hclosed, f, hf, hget, -⟩ := exists_depth_of_verify h
  have hlisted : ∀ v ∈ vs, o.get? v = some (f v) := fun v hv => by rw [hget, if_pos hv]
  refine ⟨?_, ?_⟩
  · rw [Orders.max?_eq_none_iff, List.eq_nil_iff_forall_not_mem]
    refine forall_congr' fun v => ?_
    by_cases hv : v ∈ vs <;> simp [hget, hv]
  · intro m hm
    obtain ⟨⟨v, htop⟩, hmax⟩ := Orders.max?_eq_some_iff.mp hm
    have hv : v ∈ vs := by
      by_contra hnot
      rw [hget, if_neg hnot] at htop
      cases htop
    obtain rfl : f v = m := Option.some.inj ((hlisted v hv).symm.trans htop)
    refine ⟨hasHeight_of_hasDepth hclosed hf hv ?_, ?_, ?_⟩
    · intro u hu
      exact hmax u (f u) (hlisted u hu)
    · intro k hk
      obtain ⟨u, hr, hu⟩ := (hf v hv).exists_of_le hk
      have hmem : u ∈ vs := hr.mem_of_closed hclosed.dependency hv
      exact ⟨u, hmem, by rw [hlisted u hmem, (hf u hmem).unique hu]⟩
    · rw [Orders.size_of_get? hget]
      exact (hf v hv).lt_card hclosed hv

/-- The diamond has three levels, and the list without entries has none. -/
theorem diamond_levels : ∃ o, (diamond.verify [2, 0, 3, 1, 2]).2 = .ok o ∧ o.max? = some 2 ∧
    diamond.HasHeight [2, 0, 3, 1, 2] 2 ∧ (∃ v ∈ [2, 0, 3, 1, 2], o.get? v = some 1) ∧ 3 ≤ o.size ∧
    ∃ p, (diamond.verify []).2 = .ok p ∧ p.max? = none := by
  have h : (diamond.verify [2, 0, 3, 1, 2]).2
      = .ok ⟨#[some 2, some 1, some 1, some 0], by simp⟩ := by cbv
  have hnone : (diamond.verify []).2 = .ok ∅ := by cbv
  obtain ⟨-, hlevels⟩ := levels_without_gaps h
  obtain ⟨hheight, hevery, hsize⟩ := hlevels 2 rfl
  obtain ⟨hempty, -⟩ := levels_without_gaps hnone
  exact ⟨_, h, rfl, hheight, hevery 1 (by decide), hsize, _, hnone, hempty.mpr rfl⟩

end Graph

end Lifecycle
