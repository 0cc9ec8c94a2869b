import Lifecycle.Proofs.Decimal.Numeral
import Mathlib

/-!
# Texts that can be read without looking ahead

A `PrefixCode` gives every entry a text that tells for which entry it stands and where it ends, whatever
follows it. Prefix codes can be put together: between fixed texts (`PrefixCode.between`), one after the
other (`PrefixCode.pair`), and one for each entry of a list (**`PrefixCode.flatMap_inj`**), if what
follows the list cannot be taken for one more entry. The digits of a number are such a code once a blank
follows (`prefixCode_numeral`).

Of what is read in parts, a list is read back if each of its entries is (`mapM_map_eq_pure`).
-/

namespace Lifecycle

variable {α β : Type} {f : α → List Char} {g : β → List Char}

/-- The text of an entry tells which entry it is, and where it ends. -/
def PrefixCode (f : α → List Char) : Prop := ∀ a b r s, f a ++ r = f b ++ s → a = b ∧ r = s

namespace PrefixCode

theorem congr (hf : PrefixCode f) {f' : α → List Char} (h : ∀ a, f' a = f a) : PrefixCode f' := by
  rw [funext h]
  exact hf

/-- Different entries may have texts by way of other entries. -/
theorem comp (hf : PrefixCode f) {h : β → α} (hh : Function.Injective h) :
    PrefixCode fun b => f (h b) := fun a b r s heq =>
  (hf (h a) (h b) r s heq).imp_left fun hab => hh hab

/-- A fixed text before each entry and one after it. -/
theorem between (hf : PrefixCode f) (before after : List Char) :
    PrefixCode fun a => before ++ (f a ++ after) := by
  intro a b r s heq
  simp only [List.append_assoc, List.append_cancel_left_eq] at heq
  obtain ⟨rfl, hrest⟩ := hf a b _ _ heq
  exact ⟨rfl, List.append_cancel_left hrest⟩

/-- One entry after the other. -/
theorem pair (hf : PrefixCode f) (hg : PrefixCode g) :
    PrefixCode fun x : α × β => f x.1 ++ g x.2 := by
  intro a b r s heq
  rw [List.append_assoc, List.append_assoc] at heq
  obtain ⟨hfst, hrest⟩ := hf _ _ _ _ heq
  obtain ⟨hsnd, hend⟩ := hg _ _ _ _ hrest
  exact ⟨Prod.ext hfst hsnd, hend⟩

/-- **The texts of several entries**, followed by something that cannot be the text of one. -/
theorem flatMap_inj (hf : PrefixCode f) {t u : List Char} (ht : ∀ a r, f a ++ r ≠ t)
    (hu : ∀ a r, f a ++ r ≠ u) :
    ∀ {xs ys : List α}, xs.flatMap f ++ t = ys.flatMap f ++ u → xs = ys ∧ t = u
  | [], [], heq => ⟨rfl, heq⟩
  | [], y :: ys, heq => by
    rw [List.flatMap_cons, List.append_assoc] at heq
    exact absurd heq.symm (ht y _)
  | x :: xs, [], heq => by
    rw [List.flatMap_cons, List.append_assoc] at heq
    exact absurd heq (hu x _)
  | x :: xs, y :: ys, heq => by
    rw [List.flatMap_cons, List.flatMap_cons, List.append_assoc, List.append_assoc] at heq
    obtain ⟨rfl, hrest⟩ := hf x y _ _ heq
    obtain ⟨rfl, hend⟩ := flatMap_inj hf ht hu hrest
    exact ⟨rfl, hend⟩

/-- Several entries up to a fixed text that no entry starts with. -/
theorem terminated (hf : PrefixCode f) {stop : List Char} (hstop : ∀ a r s, f a ++ r ≠ stop ++ s) :
    PrefixCode fun xs : List α => xs.flatMap f ++ stop := by
  intro xs ys r s heq
  rw [List.append_assoc, List.append_assoc] at heq
  obtain ⟨rfl, hrest⟩ := hf.flatMap_inj (fun a r' => hstop a r' r) (fun a r' => hstop a r' s) heq
  exact ⟨rfl, List.append_cancel_left hrest⟩

end PrefixCode

/-- **A number and a blank.** -/
theorem prefixCode_numeral : PrefixCode fun n : Nat => (toString n).toList ++ [' '] := by
  intro n m r s heq
  simp only [Nat.toString_eq_repr, Nat.toList_repr, List.append_assoc,
    List.singleton_append] at heq
  have hspan := congrArg (List.span Char.isDigit) heq
  rw [Decimal.span_toDigits n (.cons rfl r), Decimal.span_toDigits m (.cons rfl s)] at hspan
  obtain ⟨hdigits, hrest⟩ := Prod.mk.inj hspan
  exact ⟨Decimal.toDigits_injective hdigits, (List.cons.inj hrest).2⟩

/-- If every entry is read back, so are all of them, whatever a reader may fail with. -/
theorem mapM_map_eq_pure {m : Type → Type} [Monad m] [LawfulMonad m] {write : α → β} {read : β → m α}
    (h : ∀ a, read (write a) = pure a) (as : List α) : (as.map write).mapM read = pure as := by
  have hread : read ∘ write = pure := funext h
  rw [List.mapM_map, hread, List.mapM_pure, List.map_id']

end Lifecycle
