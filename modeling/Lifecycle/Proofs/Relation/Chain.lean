import Mathlib

/-!
# Chains, cycles and depths of a relation

A chain is a list in which each entry is related to the next (`List.IsChain`). What a chain leads to is
`Relation.ReflTransGen`, and `Relation.TransGen` if it has a link at least.

* `Chain.Acyclic`: nothing is related to itself by a chain of one link or more.
* `Chain.IsCycle`: a closed list that runs once around a cycle. Its entries lead to each other and to
  themselves (`IsCycle.reachesBelow`).
* `Chain.HasDepth`: the number of links of the longest chain from an entry. An entry on a cycle has no
  depth, since there are chains of every length from it.
* **`HasDepth.reachesBelow`**: what lies below an entry of some depth has a smaller depth. So no cycle lies
  below an entry that has a depth (`HasDepth.not_isCycle`), and no chain from it comes back to an entry
  (`HasDepth.nodup`).
* **`HasDepth.of_related`**: the depth of an entry is 0 if nothing is below it, and one more than the highest
  depth directly below it otherwise.
-/

namespace Lifecycle.Chain

open Relation (ReflTransGen TransGen)

variable {β : Type} {r : β → β → Prop} {x y z : β} {xs : List β}

/-- Nothing is related to itself, directly or not. -/
def Acyclic (r : β → β → Prop) : Prop := ∀ x, ¬ TransGen r x x

/-- A closed list: different entries, each of which is related to the next and the last to the first, which
is repeated at the end. -/
def IsCycle (r : β → β → Prop) (xs : List β) : Prop :=
  ∃ x rest, xs = x :: rest ++ [x] ∧ (x :: rest).Nodup ∧ xs.IsChain r

/-- The longest chain from an entry has that many links. -/
structure HasDepth (r : β → β → Prop) (x : β) (depth : Nat) : Prop where
  attained : ∃ chain, (x :: chain).IsChain r ∧ chain.length = depth
  bounded : ∀ chain, (x :: chain).IsChain r → chain.length ≤ depth

/-! ## Chains -/

/-- Of two entries of a chain the first leads to the second. -/
theorem pairwise_transGen (h : xs.IsChain r) : xs.Pairwise (TransGen r) :=
  (h.imp fun _ _ => TransGen.single).pairwise

theorem reaches_of_mem (h : (x :: xs).IsChain r) (hy : y ∈ x :: xs) : ReflTransGen r x y := by
  rcases List.mem_cons.mp hy with rfl | hy
  · exact .refl
  · exact ((List.pairwise_cons.mp (pairwise_transGen h)).1 y hy).to_reflTransGen

theorem reachesBelow_last (h : (xs ++ [y]).IsChain r) (hx : x ∈ xs) : TransGen r x y :=
  (List.pairwise_append.mp (pairwise_transGen h)).2.2 x hx y (List.mem_singleton_self y)

/-- A chain goes on to what its last entry is related to. -/
theorem isChain_snoc (h : (xs ++ [x]).IsChain r) (hxy : r x y) : (xs ++ [x] ++ [y]).IsChain r := by
  rw [List.append_assoc, List.singleton_append]
  exact List.isChain_split.mpr ⟨h, List.isChain_pair.mpr hxy⟩

/-- What passes from an entry to what it is related to passes to all that it leads to. -/
theorem closed {P : β → Prop} (h : ReflTransGen r x y) (hstep : ∀ x, P x → ∀ y, r x y → P y)
    (hx : P x) : P y := by
  induction h with
  | refl => exact hx
  | tail _ hlast ih => exact hstep _ ih _ hlast

/-! ## Cycles -/

/-- The entries of a cycle but the last are all of them. -/
theorem IsCycle.exists_mem (h : IsCycle r xs) :
    ∃ x rest, xs = x :: rest ++ [x] ∧ (x :: rest ++ [x]).IsChain r ∧
      ∀ y ∈ xs, y ∈ x :: rest := by
  obtain ⟨x, rest, rfl, -, hchain⟩ := h
  refine ⟨x, rest, rfl, hchain, fun y hy => ?_⟩
  rcases List.mem_append.mp hy with hy | hy
  · exact hy
  · rw [List.mem_singleton.mp hy]
    exact List.mem_cons_self

/-- An entry of a cycle leads to each of them, itself included. -/
theorem IsCycle.reachesBelow (h : IsCycle r xs) (hy : y ∈ xs) (hz : z ∈ xs) : TransGen r y z := by
  obtain ⟨x, rest, rfl, hchain, hmem⟩ := h.exists_mem
  have hlast : TransGen r y x := reachesBelow_last hchain (hmem y hy)
  exact hlast.trans_left (reaches_of_mem hchain hz)

theorem IsCycle.not_acyclic (h : IsCycle r xs) : ¬ Acyclic r := by
  obtain ⟨x, rest, hxs, -⟩ := h.exists_mem
  have hx : x ∈ xs := by simp [hxs]
  exact fun hacyclic => hacyclic x (h.reachesBelow hx hx)

/-- Every entry of a cycle is related to another one. -/
theorem IsCycle.exists_related (h : IsCycle r xs) (hx : x ∈ xs) : ∃ y, r x y := by
  obtain ⟨y, hxy, -⟩ := TransGen.head'_iff.mp (h.reachesBelow hx hx)
  exact ⟨y, hxy⟩

/-! ## Depths -/

variable {j k m n : Nat}

/-- An entry has one depth at most. -/
theorem HasDepth.unique (hm : HasDepth r x m) (hn : HasDepth r x n) : m = n := by
  obtain ⟨p, hp, rfl⟩ := hm.attained
  obtain ⟨q, hq, rfl⟩ := hn.attained
  exact Nat.le_antisymm (hn.bounded p hp) (hm.bounded q hq)

/-- An entry whose chains are bounded has a depth. -/
theorem exists_hasDepth :
    ∀ {n : Nat}, (∀ chain, (x :: chain).IsChain r → chain.length ≤ n) → ∃ k, k ≤ n ∧ HasDepth r x k
  | 0, h => ⟨0, Nat.le_refl 0, ⟨[], .singleton x, rfl⟩, h⟩
  | n + 1, h => by
    by_cases hlong : ∃ chain, (x :: chain).IsChain r ∧ chain.length = n + 1
    · exact ⟨n + 1, Nat.le_refl _, hlong, h⟩
    · obtain ⟨k, hk, hdepth⟩ := exists_hasDepth (n := n) fun chain hchain => by
        have hle := h chain hchain
        have hne : chain.length ≠ n + 1 := fun e => hlong ⟨chain, hchain, e⟩
        omega
      exact ⟨k, Nat.le_succ_of_le hk, hdepth⟩

/-- What an entry of some depth is related to has a smaller depth. -/
theorem HasDepth.related (h : HasDepth r x k) (hxy : r x y) : ∃ n, n < k ∧ HasDepth r y n := by
  have hle : ∀ chain, (y :: chain).IsChain r → chain.length + 1 ≤ k := fun chain hchain =>
    h.bounded (y :: chain) (hchain.cons_cons hxy)
  have hpos := hle [] (.singleton y)
  obtain ⟨n, hn, hdepth⟩ := exists_hasDepth (n := k - 1) fun chain hchain => by
    have := hle chain hchain
    omega
  exact ⟨n, by omega, hdepth⟩

theorem HasDepth.lt (hx : HasDepth r x k) (hy : HasDepth r y j) (hxy : r x y) : j < k := by
  obtain ⟨n, hn, hdepth⟩ := hx.related hxy
  rw [hy.unique hdepth]
  exact hn

theorem HasDepth.reaches (h : HasDepth r x k) (hxy : ReflTransGen r x y) :
    ∃ n, n ≤ k ∧ HasDepth r y n := by
  refine closed (P := fun y => ∃ n, n ≤ k ∧ HasDepth r y n) hxy ?_ ⟨k, Nat.le_refl k, h⟩
  rintro y ⟨m, hm, hy⟩ z hyz
  obtain ⟨n, hn, hdepth⟩ := hy.related hyz
  exact ⟨n, by omega, hdepth⟩

/-- **What lies below an entry of some depth has a smaller depth.** -/
theorem HasDepth.reachesBelow (h : HasDepth r x k) (hxy : TransGen r x y) :
    ∃ n, n < k ∧ HasDepth r y n := by
  obtain ⟨z, hxz, hzy⟩ := TransGen.head'_iff.mp hxy
  obtain ⟨m, hm, hdepth⟩ := h.related hxz
  obtain ⟨n, hn, hdepth⟩ := hdepth.reaches hzy
  exact ⟨n, by omega, hdepth⟩

/-- An entry that has a depth is not below itself. -/
theorem HasDepth.not_reachesBelow (h : HasDepth r x k) : ¬ TransGen r x x := by
  intro hx
  obtain ⟨n, hn, hdepth⟩ := h.reachesBelow hx
  exact Nat.ne_of_lt hn (hdepth.unique h)

/-- **Depths rule out cycles.** What is related to nothing is on none. -/
theorem acyclic_of_hasDepth (h : ∀ x y, r x y → ∃ k, HasDepth r x k) : Acyclic r := by
  intro x hx
  obtain ⟨y, hxy, -⟩ := TransGen.head'_iff.mp hx
  obtain ⟨k, hk⟩ := h x y hxy
  exact hk.not_reachesBelow hx

/-- No cycle lies below an entry that has a depth. -/
theorem HasDepth.not_isCycle (h : HasDepth r x k) (hxy : ReflTransGen r x y) (hy : y ∈ xs) :
    ¬ IsCycle r xs := by
  intro hcycle
  obtain ⟨n, -, hdepth⟩ := h.reaches hxy
  exact hdepth.not_reachesBelow (hcycle.reachesBelow hy hy)

/-- A chain from an entry that has a depth runs through different entries. -/
theorem HasDepth.nodup (h : HasDepth r x k) (hchain : (x :: xs).IsChain r) : (x :: xs).Nodup := by
  refine (List.Pairwise.imp_of_mem ?_ (pairwise_transGen hchain) : (x :: xs).Pairwise (· ≠ ·))
  rintro y z hy - hyz rfl
  obtain ⟨n, -, hdepth⟩ := h.reaches (reaches_of_mem hchain hy)
  exact hdepth.not_reachesBelow hyz

/-- **Depths from depths**: `m` is above each depth directly below an entry and, unless it is 0, one above
some. -/
theorem HasDepth.of_related (below : ∀ y, r x y → ∃ n, n < m ∧ HasDepth r y n)
    (top : m = 0 ∨ ∃ y, r x y ∧ ∃ n, m = n + 1 ∧ HasDepth r y n) : HasDepth r x m where
  attained := by
    rcases top with rfl | ⟨y, hxy, n, rfl, hdepth⟩
    · exact ⟨[], .singleton x, rfl⟩
    · obtain ⟨chain, hchain, hlength⟩ := hdepth.attained
      exact ⟨y :: chain, hchain.cons_cons hxy, by rw [List.length_cons, hlength]⟩
  bounded := by
    rintro (_ | ⟨y, chain⟩) hchain
    · exact Nat.zero_le m
    · obtain ⟨hxy, hrest⟩ := List.isChain_cons_cons.mp hchain
      obtain ⟨n, hn, hdepth⟩ := below y hxy
      have hle := hdepth.bounded chain hrest
      rw [List.length_cons]
      omega

/-! ## More links -/

variable {r' : β → β → Prop}

/-- **Depths only grow** with the links. -/
theorem HasDepth.le_of_le (hm : HasDepth r x m) (h : r ≤ r') (hn : HasDepth r' x n) : m ≤ n := by
  obtain ⟨chain, hchain, rfl⟩ := hm.attained
  exact hn.bounded chain (hchain.imp h)

/-- A depth stays when there are more links, unless there is a new chain from the entry. -/
theorem HasDepth.extend (hk : HasDepth r x k) (h : r ≤ r')
    (hold : ∀ chain, (x :: chain).IsChain r' → (x :: chain).IsChain r) : HasDepth r' x k where
  attained := by
    obtain ⟨chain, hchain, hlength⟩ := hk.attained
    exact ⟨chain, hchain.imp h, hlength⟩
  bounded := fun chain hchain => hk.bounded chain (hold chain hchain)

end Lifecycle.Chain
