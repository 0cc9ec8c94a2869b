/-!
# Counting marks

Walks over a graph keep a table with a mark per vertex and end because some mark is used up:
`markCount marks a` says how often the mark `a` still stands in the table. Overwriting another mark
leaves the count at most as it was (`markCount_set_le`), and **overwriting an `a` makes it smaller**
(`markCount_set_lt`).
-/

namespace Lifecycle

variable {μ : Type}

/-- A look-up that does not give the default finds an entry. -/
theorem getElem?_of_getD {marks : Array μ} {a b : μ} {i : Nat} (h : marks.getD i b = a)
    (hb : b ≠ a) : marks[i]? = some a := by
  rw [Array.getD_eq_getD_getElem?] at h
  cases hi : marks[i]? with
  | none => rw [hi] at h; exact absurd h hb
  | some x => rw [hi] at h; exact congrArg some h

variable [DecidableEq μ]

/-- How often the mark `a` stands in a table. -/
def markCount (marks : Array μ) (a : μ) : Nat := marks.toList.count a

theorem markCount_set {marks : Array μ} {a b : μ} {i : Nat} (h : b ≠ a) :
    markCount (marks.setIfInBounds i b) a
      = markCount marks a - if marks[i]? = some a then 1 else 0 := by
  unfold markCount
  rw [Array.toList_setIfInBounds]
  by_cases hi : i < marks.size
  · rw [List.count_set (by simpa using hi)]
    simp only [Array.getElem?_eq_getElem hi, Option.some.injEq, beq_iff_eq, Array.getElem_toList,
      h, if_false, Nat.add_zero]
  · rw [List.set_eq_of_length_le (by simpa using Nat.le_of_not_lt hi)]
    rw [Array.getElem?_eq_none (Nat.le_of_not_lt hi)]
    simp

/-- A mark put in the place of another leaves no more of that other. -/
theorem markCount_set_le {marks : Array μ} {a b : μ} {i : Nat} (h : b ≠ a) :
    markCount (marks.setIfInBounds i b) a ≤ markCount marks a := by
  rw [markCount_set h]; exact Nat.sub_le ..

/-- A mark put in the place of an `a` leaves fewer of them. -/
theorem markCount_set_lt {marks : Array μ} {a b : μ} {i : Nat} (h : b ≠ a)
    (ha : marks[i]? = some a) :
    markCount (marks.setIfInBounds i b) a < markCount marks a := by
  have hpos : 0 < markCount marks a := by
    obtain ⟨hi, hget⟩ := Array.getElem?_eq_some_iff.mp ha
    exact List.count_pos_iff.mpr (by simp [← hget])
  rw [markCount_set h, if_pos ha]
  omega

end Lifecycle
