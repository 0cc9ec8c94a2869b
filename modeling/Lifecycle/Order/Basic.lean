import Lifecycle.Graph.Basic

/-!
# Tables of orders

`Orders` is the result of a verification: a finite map from handles to orders. It is kept as an
array of slots without an empty slot at its end (`trimmed`), so **two tables are equal iff they
assign the same orders** (`Orders.ext_get?`).
-/

namespace Lifecycle

/-- A finite map from handles to orders. -/
structure Orders where
  slots : Array (Option Nat)
  trimmed : slots.back? ≠ some none
  deriving DecidableEq

namespace Orders

/-- The table without entries. -/
def empty : Orders := ⟨#[], by simp⟩

instance : EmptyCollection Orders := ⟨empty⟩
instance : Inhabited Orders := ⟨empty⟩

/-- The order assigned to `v`, if there is one. -/
def get? (o : Orders) (v : Nat) : Option Nat := o.slots.getD v none

/-- Assign an order to `v`. -/
def insert (o : Orders) (v : Nat) (order : Nat) : Orders where
  slots :=
    if v < o.slots.size then o.slots.setIfInBounds v (some order)
    else (o.slots ++ Array.replicate (v - o.slots.size) none).push (some order)
  trimmed := by
    split
    · rw [Array.back?_eq_getElem?, Array.size_setIfInBounds, Array.getElem?_setIfInBounds]
      split
      · simp
      · rw [← Array.back?_eq_getElem?]; exact o.trimmed
    · simp

/-- All entries, by ascending handle. -/
def toList (o : Orders) : List (Nat × Nat) :=
  o.slots.toList.zipIdx.filterMap fun (slot, v) => slot.map (v, ·)

/-- The number of entries. -/
def size (o : Orders) : Nat := o.toList.length

/-- Whether there is no entry. -/
def isEmpty (o : Orders) : Bool := o.toList.isEmpty

/-- The highest order assigned, which is the length of the longest chain of dependencies. -/
def max? (o : Orders) : Option Nat := (o.toList.map Prod.snd).max?

/-- Compare two handles by their orders. Handles without one come first and equal each other. -/
def compare (o : Orders) (a b : Nat) : Ordering :=
  match o.get? a, o.get? b with
  | none, none => .eq
  | none, some _ => .lt
  | some _, none => .gt
  | some m, some n => Ord.compare m n

/-- A list stably sorted by the orders of a table. -/
def sort (o : Orders) (vs : List Nat) : List Nat := vs.mergeSort fun a b => (o.compare a b).isLE

@[simp] theorem get?_empty (v : Nat) : (∅ : Orders).get? v = none := rfl

@[simp] theorem get?_insert (o : Orders) (v w : Nat) (k : Nat) :
    (o.insert v k).get? w = if v = w then some k else o.get? w := by
  simp only [get?, insert, Array.getD_eq_getD_getElem?]
  split
  · rename_i hv
    rw [Array.getElem?_setIfInBounds]
    split
    · rename_i h; subst h; simp
    · rfl
  · rename_i hv
    rw [Array.getElem?_push, Array.getElem?_append]
    simp only [Array.size_append, Array.size_replicate]
    have hsum : o.slots.size + (v - o.slots.size) = v := Nat.add_sub_cancel' (Nat.le_of_not_lt hv)
    rw [hsum]
    by_cases hw : v = w
    · simp [hw]
    · rw [if_neg (Ne.symm hw), if_neg hw]
      split
      · rfl
      · rename_i hlt
        have hge : o.slots.size ≤ w := by omega
        rw [Array.getElem?_eq_none hge, Array.getElem?_replicate]
        split <;> rfl

/-- A table has no slot at or beyond the end of one that agrees with it. -/
theorem size_le_of_get?_eq {o p : Orders} (h : ∀ v, o.get? v = p.get? v) :
    o.slots.size ≤ p.slots.size := by
  apply Nat.le_of_not_lt
  intro hlt
  have hpos : 0 < o.slots.size := by omega
  have hlast := h (o.slots.size - 1)
  have hp : p.get? (o.slots.size - 1) = none := by
    simp only [get?, Array.getD_eq_getD_getElem?]
    rw [Array.getElem?_eq_none (by omega)]; rfl
  rw [hp] at hlast
  apply o.trimmed
  rw [Array.back?_eq_getElem?]
  simp only [get?, Array.getD_eq_getD_getElem?] at hlast
  rw [Array.getElem?_eq_getElem (by omega)] at hlast ⊢
  simpa using hlast

/-- **Tables that assign the same orders are equal.** -/
theorem ext_get? {o p : Orders} (h : ∀ v, o.get? v = p.get? v) : o = p := by
  have hsize : o.slots.size = p.slots.size :=
    Nat.le_antisymm (size_le_of_get?_eq h) (size_le_of_get?_eq fun v => (h v).symm)
  obtain ⟨s, hs⟩ := o
  obtain ⟨t, ht⟩ := p
  have : s = t := by
    refine Array.ext hsize fun i hi hj => ?_
    have := h i
    simpa [get?, Array.getD_eq_getD_getElem?, hi, hj] using this
  subst this
  rfl

/-- The entries of a table are its assignments. -/
@[simp] theorem mem_toList {o : Orders} {v : Nat} {k : Nat} :
    (v, k) ∈ o.toList ↔ o.get? v = some k := by
  simp only [toList, List.mem_filterMap, get?, Array.getD_eq_getD_getElem?]
  constructor
  · rintro ⟨⟨slot, i⟩, hmem, heq⟩
    rw [List.mem_zipIdx_iff_getElem?] at hmem
    obtain ⟨j, hj, hpair⟩ := Option.map_eq_some_iff.mp heq
    obtain ⟨rfl, rfl⟩ := Prod.mk.inj hpair
    simp only [Array.getElem?_toList] at hmem
    change slot = some j at hj
    simp [hmem, hj]
  · intro h
    refine ⟨(some k, v), ?_, rfl⟩
    rw [List.mem_zipIdx_iff_getElem?, Array.getElem?_toList]
    cases hs : o.slots[v]? with
    | none => simp [hs] at h
    | some x => simp [hs] at h; simp [h]

end Orders

end Lifecycle
