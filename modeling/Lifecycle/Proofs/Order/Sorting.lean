import Lifecycle.Proofs.Order.Agreement
import Mathlib

/-!
# Sorting by depth

* `stableSort` sorts a list by a number. Entries with the same number keep their order
  (**`filter_stableSort`**), so the sorted list increases by the number, then by whatever the list
  increased by before (**`pairwise_stableSort_lex`**).
* **`topologicalSort_cases`** and **`topologicalOrder_cases`**: a sort fails as the verification of its
  list does, and gives the list stably sorted by depth otherwise. All vertices together are never
  refused.
-/

namespace Lifecycle

/-! ## Stable sorting -/

section StableSort

variable {β : Type} {key : β → Nat} {xs : List β}

/-- A list stably sorted by a number. -/
abbrev stableSort (key : β → Nat) (xs : List β) : List β :=
  xs.mergeSort fun a b => decide (key a ≤ key b)

theorem stableSort_perm (key : β → Nat) (xs : List β) : (stableSort key xs).Perm xs :=
  List.mergeSort_perm xs _

theorem mem_stableSort {a : β} : a ∈ stableSort key xs ↔ a ∈ xs :=
  (stableSort_perm key xs).mem_iff

/-- Comparisons that agree on a list sort it alike. -/
theorem mergeSort_congr {le le' : β → β → Bool} (h : ∀ a ∈ xs, ∀ b ∈ xs, le a b = le' a b) :
    xs.mergeSort le = xs.mergeSort le' := by
  have hmap : (xs.mergeSort le).map id = (xs.map id).mergeSort le' := List.map_mergeSort h
  rwa [List.map_id, List.map_id] at hmap

/-- Only the numbers of the entries matter. -/
theorem stableSort_congr {key' : β → Nat} (h : ∀ a ∈ xs, key a = key' a) :
    stableSort key xs = stableSort key' xs :=
  mergeSort_congr fun a ha b hb => by rw [h a ha, h b hb]

theorem key_le_trans (a b c : β) (hab : decide (key a ≤ key b) = true)
    (hbc : decide (key b ≤ key c) = true) : decide (key a ≤ key c) = true :=
  decide_eq_true (Nat.le_trans (of_decide_eq_true hab) (of_decide_eq_true hbc))

theorem key_le_total (a b : β) : (decide (key a ≤ key b) || decide (key b ≤ key a)) = true := by
  rw [Bool.or_eq_true, decide_eq_true_iff, decide_eq_true_iff]
  exact Nat.le_total (key a) (key b)

theorem pairwise_stableSort : (stableSort key xs).Pairwise fun a b => key a ≤ key b :=
  (List.pairwise_mergeSort key_le_trans key_le_total xs).imp of_decide_eq_true

/-- **Entries with the same number keep their order.** -/
theorem filter_stableSort (key : β → Nat) (xs : List β) (k : Nat) :
    (stableSort key xs).filter (key · == k) = xs.filter (key · == k) := by
  have hequal : (xs.filter (key · == k)).Pairwise fun a b => decide (key a ≤ key b) = true := by
    refine List.pairwise_of_forall_mem_list fun a ha b hb => decide_eq_true ?_
    rw [eq_of_beq (List.mem_filter.mp ha).2, eq_of_beq (List.mem_filter.mp hb).2]
  have hsub : (xs.filter (key · == k)).Sublist (stableSort key xs) :=
    List.sublist_mergeSort key_le_trans key_le_total hequal List.filter_sublist
  have hkept := hsub.filter (key · == k)
  rw [List.filter_filter] at hkept
  simp only [Bool.and_self] at hkept
  exact (hkept.eq_of_length ((stableSort_perm key xs).filter _).length_eq.symm).symm

/-- **The sorted list increases by the number, then as the list did before.** -/
theorem pairwise_stableSort_lex {r : β → β → Prop} (h : xs.Pairwise r) :
    (stableSort key xs).Pairwise fun a b => key a < key b ∨ (key a = key b ∧ r a b) := by
  rw [List.pairwise_iff_forall_sublist]
  intro a b hab
  have hle : key a ≤ key b :=
    List.pairwise_iff_forall_sublist.mp pairwise_stableSort hab
  rcases Nat.lt_or_eq_of_le hle with hlt | heq
  · exact Or.inl hlt
  · have hkeep : [a, b].filter (key · == key b) = [a, b] := by simp [heq]
    have hfilter := hab.filter (key · == key b)
    rw [filter_stableSort, hkeep] at hfilter
    have hbefore : [a, b].Sublist xs := hfilter.trans List.filter_sublist
    exact Or.inr ⟨heq, List.pairwise_iff_forall_sublist.mp h hbefore⟩

/-- In the sorted list an entry with a smaller number stands earlier. -/
theorem lt_of_key_lt {i j : Nat} {a b : β} (hi : (stableSort key xs)[i]? = some a)
    (hj : (stableSort key xs)[j]? = some b) (hlt : key a < key b) : i < j := by
  obtain ⟨hi', rfl⟩ := List.getElem?_eq_some_iff.mp hi
  obtain ⟨hj', rfl⟩ := List.getElem?_eq_some_iff.mp hj
  rcases Nat.lt_trichotomy i j with hij | rfl | hji
  · exact hij
  · exact absurd hlt (Nat.lt_irrefl _)
  · have hle := List.pairwise_iff_getElem.mp pairwise_stableSort j i hj' hi' hji
    exact absurd hlt (Nat.not_lt.mpr hle)

/-- What has a smaller number stands before. -/
theorem mem_before_of_key_lt {a b : β} {before after : List β}
    (hsplit : stableSort key xs = before ++ a :: after) (hb : b ∈ xs) (hlt : key b < key a) :
    b ∈ before := by
  have hsorted : (before ++ a :: after).Pairwise fun a b => key a ≤ key b :=
    hsplit ▸ pairwise_stableSort
  obtain ⟨-, htail, -⟩ := List.pairwise_append.mp hsorted
  have hmem : b ∈ before ++ a :: after := hsplit ▸ mem_stableSort.mpr hb
  rcases List.mem_append.mp hmem with hbefore | hrest
  · exact hbefore
  · rcases List.mem_cons.mp hrest with rfl | hafter
    · exact absurd hlt (Nat.lt_irrefl _)
    · exact absurd hlt (Nat.not_lt.mpr ((List.pairwise_cons.mp htail).1 b hafter))

end StableSort

/-! ## Sorting the vertices of a graph -/

namespace Graph

variable {α : Type} {g : Graph α}

/-- All vertices together miss none. -/
theorem closed_ids (g : Graph α) : g.Closed g.ids :=
  ⟨fun _ hv => decide_eq_true (mem_ids.mp hv), fun _ _ _ hd => mem_ids.mpr (dependency_lt hd)⟩

/-- **All that `topologicalSort` can do.** -/
theorem topologicalSort_cases (g : Graph α) (vs : List Nat) :
    (∃ e, (g.verify vs).2 = .error e ∧ g.topologicalSort vs = ((g.verify vs).1, .error e)) ∨
    (∃ o, ∃ f : Nat → Nat, (∀ v ∈ vs, g.HasDepth v (f v)) ∧
      g.verify vs = (vs.foldl (fun g v => g.setOrder v (f v)) g, .ok o) ∧
      g.topologicalSort vs
        = (vs.foldl (fun g v => g.setOrder v (f v)) g, .ok (o, stableSort f vs))) := by
  obtain ⟨g', r, hverify⟩ : ∃ g' r, g.verify vs = (g', r) := ⟨_, _, rfl⟩
  cases r with
  | error e => exact Or.inl ⟨e, by rw [hverify], by rw [topologicalSort, hverify]⟩
  | ok o =>
    have hok : (g.verify vs).2 = .ok o := by rw [hverify]
    obtain ⟨hclosed, f, hf, hget, -⟩ := exists_depth_of_verify hok
    -- the list is sorted by the table, which holds the depths of the listed vertices only
    have hdepth : ∀ v ∈ vs, g.HasDepth v ((o.get? v).getD 0) := fun v hv => by
      rw [hget, if_pos hv]
      exact hf v hv
    have hcommits : g' = vs.foldl (fun g v => g.setOrder v ((o.get? v).getD 0)) g := by
      have hgraph := congrArg Prod.fst (verify_of_hasDepth hclosed hdepth)
      rw [hverify] at hgraph
      exact hgraph
    refine Or.inr ⟨o, fun v => (o.get? v).getD 0, hdepth, ?_, ?_⟩
    · rw [hverify, hcommits]
    · rw [topologicalSort, hverify, ← hcommits]

/-- **All that `topologicalOrder` can do.** -/
theorem topologicalOrder_cases (g : Graph α) :
    (∃ c, g.Genuine g.ids c ∧ g.topologicalOrder.2 = .error (.cycle c)) ∨
    (∃ f : Nat → Nat, (∀ v ∈ g.ids, g.HasDepth v (f v)) ∧ g.topologicalOrder
      = (g.ids.foldl (fun g v => g.setOrder v (f v)) g, .ok (stableSort f g.ids))) := by
  rcases g.topologicalSort_cases g.ids with ⟨e, he, hsort⟩ | ⟨o, f, hf, -, hsort⟩
  · have herror : g.topologicalOrder.2 = .error e := by rw [topologicalOrder, hsort]
    cases e with
    | cycle c => exact Or.inl ⟨c, genuine_of_verify he, herror⟩
    | missingVertex a b =>
      rw [verify_eq_error_iff (fun c => by simp), checkListed_eq_ok_iff.mpr g.closed_ids] at he
      cases he
    | vertexNotFound v =>
      rw [verify_eq_error_iff (fun c => by simp), checkListed_eq_ok_iff.mpr g.closed_ids] at he
      cases he
  · exact Or.inr ⟨f, hf, by rw [topologicalOrder, hsort]⟩

end Graph

end Lifecycle
