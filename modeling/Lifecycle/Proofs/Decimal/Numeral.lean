import Lifecycle.Decimal.Basic
import Mathlib

/-!
# Numerals

The decimal digits of a number stand for it (**`digitsValue_toDigits`**), the first of several is not 0
(`head?_toDigits_ne_zero`), and a reader that takes digits takes all of them and nothing else
(**`span_toDigits`**).
-/

namespace Lifecycle.Decimal

theorem digitsValue_eq_ofDigitChars (ds : List Char) :
    digitsValue ds = Nat.ofDigitChars 10 ds 0 := by
  unfold digitsValue Nat.ofDigitChars
  simp only [Nat.mul_comm]

/-- **The digits of a number stand for it.** -/
@[simp] theorem digitsValue_toDigits (n : Nat) : digitsValue (Nat.toDigits 10 n) = n := by
  rw [digitsValue_eq_ofDigitChars]
  exact Nat.ofDigitChars_toDigits (by decide) (by decide)

theorem toDigits_injective : Function.Injective (Nat.toDigits 10) :=
  Function.LeftInverse.injective digitsValue_toDigits

theorem isDigit_of_mem_toDigits {n : Nat} : ∀ c ∈ Nat.toDigits 10 n, c.isDigit = true := fun _ hc =>
  Nat.isDigit_of_mem_toDigits (by decide) (by decide) hc

theorem toDigits_eq_cons (n : Nat) :
    ∃ d ds, Nat.toDigits 10 n = d :: ds ∧ d.isDigit = true := by
  obtain ⟨d, ds, hds⟩ := List.exists_cons_of_ne_nil (Nat.toDigits_ne_nil (n := n) (b := 10))
  exact ⟨d, ds, hds, isDigit_of_mem_toDigits d (hds ▸ List.mem_cons_self)⟩

/-- The digits of a number other than 0 do not start with 0. -/
theorem head?_toDigits_ne_zero {n : Nat} (h : 0 < n) : (Nat.toDigits 10 n).head? ≠ some '0' := by
  induction n using Nat.strongRecOn with
  | ind n ih =>
    by_cases hlt : n < 10
    · rw [Nat.toDigits_of_lt_base hlt, List.head?_cons, ne_eq, Option.some.injEq,
        Nat.digitChar_eq_zero]
      exact Nat.ne_of_gt h
    · rw [Nat.toDigits_of_base_le (by decide) (by omega),
        List.head?_append_of_ne_nil _ Nat.toDigits_ne_nil]
      exact ih (n / 10) (by omega) (by omega)

/-- The digits of a number are one, or do not start with 0. -/
theorem no_superfluous_zero (n : Nat) :
    ((Nat.toDigits 10 n).head? == some '0' && decide ((Nat.toDigits 10 n).length > 1)) = false := by
  by_cases h : 0 < n
  · rw [beq_eq_false_iff_ne.mpr (head?_toDigits_ne_zero h), Bool.false_and]
  · obtain rfl := Nat.eq_zero_of_not_pos h
    rfl

/-! ## Reading digits -/

/-- A text that does not go on with a digit. -/
def NoDigitNext (rest : List Char) : Prop := ∀ c ∈ rest.head?, c.isDigit = false

theorem NoDigitNext.nil : NoDigitNext [] := fun _ hc => by cases hc

theorem NoDigitNext.cons {c : Char} (h : c.isDigit = false) (cs : List Char) : NoDigitNext (c :: cs) :=
  fun _ hc => Option.some.inj hc ▸ h

/-- Who reads while a condition holds reads what satisfies it and nothing else. -/
theorem span_append {p : Char → Bool} {cs rest : List Char} (hcs : ∀ c ∈ cs, p c = true)
    (hrest : ∀ c ∈ rest.head?, p c = false) : (cs ++ rest).span p = (cs, rest) := by
  have hnone : rest.takeWhile p = [] ∧ rest.dropWhile p = rest := by
    cases rest with
    | nil => exact ⟨rfl, rfl⟩
    | cons c rest =>
      have hc : ¬ p c = true := Bool.eq_false_iff.mp (hrest c rfl)
      exact ⟨List.takeWhile_cons_of_neg hc, List.dropWhile_cons_of_neg hc⟩
  rw [List.span_eq_takeWhile_dropWhile, List.takeWhile_append_of_pos hcs,
    List.dropWhile_append_of_pos hcs, hnone.1, hnone.2, List.append_nil]

/-- **Who reads digits reads those of the number.** -/
theorem span_toDigits (n : Nat) {rest : List Char} (h : NoDigitNext rest) :
    (Nat.toDigits 10 n ++ rest).span Char.isDigit = (Nat.toDigits 10 n, rest) :=
  span_append isDigit_of_mem_toDigits h

end Lifecycle.Decimal
