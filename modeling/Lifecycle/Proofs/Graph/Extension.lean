import Lifecycle.Proofs.Graph.Build
import Lifecycle.Proofs.Graph.Path
import Mathlib

/-!
# Graphs with more edges

What becomes of paths, reachability and depths when edges are added.

* `Extends`: every dependency in one graph is one in the other.
* **`reaches_link_iff`**, **`isPath_link`**: what is reached by one more edge, and what a path that was not
  there before looks like. Hence the edge closes a cycle iff its target reaches its source
  (**`acyclic_link_iff`**), and every new cycle runs along it (`isCycle_link`).
* **`HasDepth.link_source`**: the depth of the source of the new edge. A vertex that does not reach the
  source keeps its depth (`HasDepth.link_of_not_reaches`).
-/

namespace Lifecycle.Graph

variable {α β : Type} {g : Graph α} {g' : Graph β}

/-! ## Extensions -/

/-- Every dependency in the first graph is one in the second. -/
def Extends (g : Graph α) (g' : Graph β) : Prop :=
  ∀ v, ∀ d ∈ g.dependencies v, d ∈ g'.dependencies v

theorem Reaches.extend {v w : Nat} (h : g.Extends g') (hr : g.Reaches v w) : g'.Reaches v w :=
  Relation.ReflTransGen.mono h v w hr

/-- Depths are read off the dependencies alone. -/
theorem HasDepth.congr {v k : Nat} (hk : g.HasDepth v k)
    (h : ∀ v, g'.dependencies v = g.dependencies v) : g'.HasDepth v k := by
  have hto : g.Extends g' := fun u d hd => by rw [h]; exact hd
  have hback : g'.Extends g := fun u d hd => by rw [← h]; exact hd
  exact hk.extend hto fun _ hp => hp.imp hback

/-! ## One more edge -/

section Link

variable {a b : Nat}

theorem mem_dependencies_link (ha : a < g.size) (hb : b < g.size) {v d : Nat} :
    d ∈ (g.link a b).dependencies v ↔ d ∈ g.dependencies v ∨ (v = a ∧ d = b) := by
  rw [dependencies_link ha hb]
  by_cases hv : a = v
  · rw [if_pos hv, mem_addNew]
    simp [hv]
  · rw [if_neg hv]
    simp [Ne.symm hv]

theorem extends_link (ha : a < g.size) (hb : b < g.size) : g.Extends (g.link a b) :=
  fun _ _ hd => (mem_dependencies_link ha hb).mpr (Or.inl hd)

/-- **What one more edge reaches**: what was reached before, and from above its source all below its
target. -/
theorem reaches_link_iff (ha : a < g.size) (hb : b < g.size) {v w : Nat} :
    (g.link a b).Reaches v w ↔ g.Reaches v w ∨ (g.Reaches v a ∧ g.Reaches b w) := by
  constructor
  · intro h
    induction h with
    | refl => exact Or.inl .refl
    | tail _ hd ih =>
      rcases (mem_dependencies_link ha hb).mp hd with hd | ⟨rfl, rfl⟩
      · rcases ih with hr | ⟨hra, hrb⟩
        · exact Or.inl (hr.tail hd)
        · exact Or.inr ⟨hra, hrb.tail hd⟩
      · rcases ih with hr | ⟨hra, -⟩
        · exact Or.inr ⟨hr, .refl⟩
        · exact Or.inr ⟨hra, .refl⟩
  · have hext : g.Extends (g.link a b) := extends_link ha hb
    rintro (hr | ⟨hra, hrb⟩)
    · exact hr.extend hext
    · have hedge : b ∈ (g.link a b).dependencies a :=
        (mem_dependencies_link ha hb).mpr (Or.inr ⟨rfl, rfl⟩)
      exact (hra.extend hext).trans (.head hedge (hrb.extend hext))

/-- The edge does not help to reach its own source. -/
theorem reaches_link_source (ha : a < g.size) (hb : b < g.size) {v : Nat} :
    (g.link a b).Reaches v a ↔ g.Reaches v a := by
  rw [reaches_link_iff ha hb]
  exact ⟨fun h => h.elim id And.left, Or.inl⟩

/-- **An edge closes a cycle iff its target reaches its source.** -/
theorem acyclic_link_iff (ha : a < g.size) (hb : b < g.size) (h : g.Acyclic) :
    (g.link a b).Acyclic ↔ ¬ g.Reaches b a := by
  constructor
  · intro hacyclic hr
    have hedge : b ∈ (g.link a b).dependencies a :=
      (mem_dependencies_link ha hb).mpr (Or.inr ⟨rfl, rfl⟩)
    exact hacyclic a (.head' hedge (hr.extend (extends_link ha hb)))
  · intro hnot v hv
    obtain ⟨d, hd, hr⟩ := Relation.TransGen.head'_iff.mp hv
    have hr := (reaches_link_iff ha hb).mp hr
    rcases (mem_dependencies_link ha hb).mp hd with hd | ⟨rfl, rfl⟩
    · rcases hr with hr | ⟨hra, hrb⟩
      · exact h v (.head' hd hr)
      · exact hnot (hrb.trans (.head hd hra))
    · rcases hr with hr | ⟨hr, -⟩
      · exact hnot hr
      · exact hnot hr

/-- **A path of the graph with the edge is one without it or runs along it.** -/
theorem isPath_link (ha : a < g.size) (hb : b < g.size) :
    ∀ {vs : List Nat}, (g.link a b).IsPath vs → g.IsPath vs ∨ ∃ us ws, vs = us ++ a :: b :: ws
  | [], _ => Or.inl .nil
  | [v], _ => Or.inl (.singleton v)
  | v :: d :: vs, hp => by
    obtain ⟨hvd, htail⟩ := List.isChain_cons_cons.mp hp
    rcases isPath_link ha hb htail with hrest | ⟨us, ws, hrest⟩
    · rcases (mem_dependencies_link ha hb).mp hvd with hd | ⟨rfl, rfl⟩
      · exact Or.inl (hrest.cons_cons hd)
      · exact Or.inr ⟨[], vs, rfl⟩
    · exact Or.inr ⟨v :: us, ws, by rw [hrest, List.cons_append]⟩

/-- **A cycle that was not there before runs along the edge.** -/
theorem isCycle_link (ha : a < g.size) (hb : b < g.size) (h : g.Acyclic) {vs : List Nat}
    (hc : (g.link a b).IsCycle vs) : ∃ us ws, vs = us ++ a :: b :: ws := by
  obtain ⟨c, rest, rfl, hnodup, hp⟩ := hc
  refine (isPath_link ha hb hp).resolve_left fun hold => ?_
  have hcycle : g.IsCycle (c :: rest ++ [c]) := ⟨c, rest, rfl, hnodup, hold⟩
  exact hcycle.not_acyclic h

/-- A path from a vertex that does not reach the source was there before. -/
theorem IsPath.of_link (ha : a < g.size) (hb : b < g.size) {v : Nat} {path : List Nat}
    (hp : (g.link a b).IsPath (v :: path)) (hv : ¬ g.Reaches v a) : g.IsPath (v :: path) := by
  refine (isPath_link ha hb hp).resolve_right ?_
  rintro ⟨us, ws, hpath⟩
  have hmem : a ∈ v :: path := by
    rw [hpath]
    simp
  exact hv ((reaches_link_source ha hb).mp (Chain.reaches_of_mem hp hmem))

/-- A vertex that does not reach the source keeps its depth. -/
theorem HasDepth.link_of_not_reaches (ha : a < g.size) (hb : b < g.size) {v k : Nat}
    (hk : g.HasDepth v k) (hv : ¬ g.Reaches v a) : (g.link a b).HasDepth v k :=
  hk.extend (extends_link ha hb) fun _ hp => IsPath.of_link ha hb hp hv

/-- **The depth of the source** is one more than that of the target, unless it was as much before. -/
theorem HasDepth.link_source (ha : a < g.size) (hb : b < g.size) {m n : Nat} (hm : g.HasDepth a m)
    (hn : g.HasDepth b n) (h : ¬ g.Reaches b a) : (g.link a b).HasDepth a (max m (n + 1)) where
  attained := by
    rcases Nat.le_total m (n + 1) with hle | hle
    · obtain ⟨path, hp, hlength⟩ := hn.attained
      have hedge : b ∈ (g.link a b).dependencies a :=
        (mem_dependencies_link ha hb).mpr (Or.inr ⟨rfl, rfl⟩)
      exact ⟨b :: path, (hp.imp (extends_link ha hb)).cons_cons hedge, by
        rw [List.length_cons, hlength, Nat.max_eq_right hle]⟩
    · obtain ⟨path, hp, hlength⟩ := hm.attained
      exact ⟨path, hp.imp (extends_link ha hb), by rw [hlength, Nat.max_eq_left hle]⟩
  bounded := by
    rintro (_ | ⟨d, path⟩) hp
    · exact Nat.zero_le _
    · rw [List.length_cons]
      obtain ⟨hstep, hrest⟩ := List.isChain_cons_cons.mp hp
      rcases (mem_dependencies_link ha hb).mp hstep with hd | ⟨-, rfl⟩
      -- a dependency of `a` does not reach it again, as `a` has a depth
      · have hnot : ¬ g.Reaches d a := fun hr => by
          obtain ⟨k, hk, hdepth⟩ := hm.reachesBelow (.head' hd hr)
          exact Nat.ne_of_lt hk (hdepth.unique hm)
        have hle := hm.bounded (d :: path) ((IsPath.of_link ha hb hrest hnot).cons_cons hd)
        rw [List.length_cons] at hle
        omega
      · have hle := hn.bounded path (IsPath.of_link ha hb hrest h)
        omega

end Link

end Lifecycle.Graph
