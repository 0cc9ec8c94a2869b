import Lifecycle.Json.Printer
import Lifecycle.Json.Reader
import Lifecycle.Proofs.Decimal.Numeral
import Mathlib

/-!
# Reading the strings and numbers of JSON

* **`readString_quote`**: a string is read back from its quotes, each character from its escape.
* **`readNumber_int`, `readNumber_real`**: a number is read back, unless what follows goes on with it
  (`NumberEnds`).
-/

namespace Lifecycle.Json

/-! ## Strings -/

theorem hexValue?_digitChar {n : Nat} (h : n < 16) : hexValue? (Nat.digitChar n) = some n := by
  interval_cases n <;> rfl

/-- The four digits of a control character stand for it. -/
theorem hex4?_digitChar {n : Nat} (h : n < 0x20) :
    hex4? '0' '0' (Nat.digitChar (n / 16)) (Nat.digitChar (n % 16)) = some n := by
  have hzero : hexValue? '0' = some 0 := rfl
  rw [hex4?, hzero, hexValue?_digitChar (by omega), hexValue?_digitChar (by omega)]
  simp only [Option.bind_eq_bind, Option.bind_some, Option.pure_def, Option.some.injEq]
  omega

/-- A text that goes on with one more escape by code point. The reader looks at two of them at once,
because they may stand for one character. -/
def EscapeNext (cs : List Char) : Prop :=
  ∃ a b c d rest, cs = '\\' :: 'u' :: a :: b :: c :: d :: rest

theorem readString_of_hex4?_eq_none {a b c d : Char} (h : hex4? a b c d = none)
    (acc cs : List Char) : readString acc ('\\' :: 'u' :: a :: b :: c :: d :: cs) = none := by
  by_cases hnext : EscapeNext cs
  · obtain ⟨a', b', c', d', rest, rfl⟩ := hnext
    rw [readString, h]
  · rw [readString, h]
    exact fun a' b' c' d' rest hcs => hnext ⟨a', b', c', d', rest, hcs⟩

/-- An escape by a code point below the surrogates is read by itself, whatever follows. -/
theorem readString_of_hex4? {a b c d : Char} {n : Nat} (h : hex4? a b c d = some n)
    (hn : n < 0xD800) (acc cs : List Char) :
    readString acc ('\\' :: 'u' :: a :: b :: c :: d :: cs)
      = readString (Char.ofNat n :: acc) cs := by
  by_cases hnext : EscapeNext cs
  · obtain ⟨a', b', c', d', rest, rfl⟩ := hnext
    cases hlow : hex4? a' b' c' d' with
    | none => rw [readString, h, hlow, readString_of_hex4?_eq_none hlow]
    | some low =>
      rw [readString, h, hlow]
      dsimp only
      rw [if_neg (by omega), if_neg (by omega)]
  · rw [readString, h]
    · exact if_neg (by omega)
    · exact fun a' b' c' d' rest hcs => hnext ⟨a', b', c', d', rest, hcs⟩

/-- An escape by a letter. -/
theorem readString_of_unescape? {c e : Char} (h : unescape? c = some e) (acc cs : List Char) :
    readString acc ('\\' :: c :: cs) = readString (e :: acc) cs := by
  have hu : c ≠ 'u' := by
    rintro rfl
    cases h
  rw [readString, h]
  · exact fun _ _ _ _ _ _ _ _ _ hc _ => hu hc
  · exact fun _ _ _ _ _ hc _ => hu hc

/-- A character that stands for itself. -/
theorem readString_of_plain {c : Char} (hquote : c ≠ '"') (hbackslash : c ≠ '\\')
    (hcontrol : ¬ c.toNat < 0x20) (acc cs : List Char) :
    readString acc (c :: cs) = readString (c :: acc) cs := by
  rw [readString, if_neg hcontrol]
  · exact hquote
  · exact fun _ _ _ _ _ _ _ _ _ hc _ => hbackslash hc
  · exact fun _ _ _ _ _ hc _ => hbackslash hc
  · exact fun _ _ hc _ => hbackslash hc

/-- **A character is read back.** -/
theorem readString_escapeChar (c : Char) (acc cs : List Char) :
    readString acc (escapeChar c ++ cs) = readString (c :: acc) cs := by
  unfold escapeChar
  split
  case h_8 hquote hbackslash _ _ _ _ _ =>
    split
    case isTrue hcontrol =>
      have hread := readString_of_hex4? (hex4?_digitChar hcontrol) (by omega) acc cs
      rw [Char.ofNat_toNat] at hread
      exact hread
    case isFalse hcontrol => exact readString_of_plain hquote hbackslash hcontrol acc cs
  all_goals exact readString_of_unescape? rfl acc cs

/-- The characters of a string, up to the quote that ends it. -/
theorem readString_flatMap_escapeChar :
    ∀ (cs acc rest : List Char), readString acc (cs.flatMap escapeChar ++ '"' :: rest)
      = some (String.ofList (acc.reverse ++ cs), rest)
  | [], acc, rest => by
    rw [List.flatMap_nil, List.nil_append, readString, List.append_nil]
  | c :: cs, acc, rest => by
    rw [List.flatMap_cons, List.append_assoc, readString_escapeChar,
      readString_flatMap_escapeChar cs, List.reverse_cons, List.append_assoc]
    rfl

theorem toList_quote (s : String) : (quote s).toList = '"' :: (s.toList.flatMap escapeChar ++ ['"']) := by
  rw [quote, String.toList_ofList, List.cons_append]

/-- **A string is read back from its quotes.** -/
theorem readString_quote (s : String) (rest : List Char) :
    readString [] (s.toList.flatMap escapeChar ++ '"' :: rest) = some (s, rest) := by
  rw [readString_flatMap_escapeChar, List.reverse_nil, List.nil_append, String.ofList_toList]

/-! ## Numbers -/

/-- A text that does not go on with a number that stands before it. -/
def NumberEnds (rest : List Char) : Prop :=
  ∀ c ∈ rest.head?, c.isDigit = false ∧ c ≠ '.' ∧ c ≠ 'e' ∧ c ≠ 'E'

theorem NumberEnds.nil : NumberEnds [] := fun _ hc => by cases hc

theorem NumberEnds.cons {c : Char} (h : c.isDigit = false ∧ c ≠ '.' ∧ c ≠ 'e' ∧ c ≠ 'E')
    (cs : List Char) : NumberEnds (c :: cs) := fun _ hc => Option.some.inj hc ▸ h

theorem NumberEnds.noDigitNext {rest : List Char} (h : NumberEnds rest) : Decimal.NoDigitNext rest :=
  fun c hc => (h c hc).1

theorem readFraction_of_ne {rest : List Char} (h : ∀ c ∈ rest.head?, c ≠ '.') :
    readFraction rest = some ([], rest) := by
  unfold readFraction
  split
  · exact absurd rfl (h '.' rfl)
  · rfl

theorem readExponent_of_numberEnds {rest : List Char} (h : NumberEnds rest) :
    readExponent rest = some (none, rest) := by
  cases rest with
  | nil => rfl
  | cons c cs =>
    obtain ⟨-, -, hlower, hupper⟩ := h c rfl
    unfold readExponent
    exact if_neg fun hc => hc.elim hlower hupper

theorem isEmpty_toDigits (n : Nat) : (Nat.toDigits 10 n).isEmpty = false :=
  List.isEmpty_eq_false_iff.mpr Nat.toDigits_ne_nil

/-- A number without a fraction is what its digits and its exponent, if any, make of it. -/
theorem readNumber_toDigits {negative : Bool} {n : Nat} {rest after : List Char}
    {exponent : Option Int} (hdigits : Decimal.NoDigitNext rest)
    (hfraction : readFraction rest = some ([], rest))
    (hexponent : readExponent rest = some (exponent, after)) :
    readNumber negative (Nat.toDigits 10 n ++ rest)
      = some (if exponent.isNone && !(negative && n == 0) then
          .int (if negative then -(n : Int) else n)
        else .real ⟨negative, n, exponent.getD 0⟩, after) := by
  simp only [readNumber, Decimal.span_toDigits n hdigits, isEmpty_toDigits,
    Decimal.no_superfluous_zero, Bool.false_or, Bool.false_eq_true, if_false, hfraction, hexponent,
    Option.bind_eq_bind, Option.bind_some, List.append_nil, Decimal.digitsValue_toDigits,
    List.isEmpty_nil, Bool.true_and, List.length_nil, Int.natCast_zero, Int.sub_zero]
  split <;> rfl

/-- **A whole number is read back.** -/
theorem readNumber_int {negative : Bool} {n : Nat} (h : negative = true → n ≠ 0)
    {rest : List Char} (hrest : NumberEnds rest) :
    readNumber negative (Nat.toDigits 10 n ++ rest)
      = some (.int (if negative then -(n : Int) else n), rest) := by
  have hsign : (negative && n == 0) = false := by
    cases negative with
    | false => rfl
    | true => exact beq_eq_false_iff_ne.mpr (h rfl)
  rw [readNumber_toDigits hrest.noDigitNext (readFraction_of_ne fun c hc => (hrest c hc).2.1)
    (readExponent_of_numberEnds hrest), hsign]
  rfl

/-- Digits after a minus sign, or without one. -/
def signed (negative : Bool) (cs : List Char) : List Char := if negative then '-' :: cs else cs

theorem signed_append (negative : Bool) (cs rest : List Char) :
    signed negative cs ++ rest = signed negative (cs ++ rest) := by
  cases negative <;> rfl

theorem toList_toString_int (k : Int) :
    (toString k).toList = signed (decide (k < 0)) (Nat.toDigits 10 k.natAbs) := by
  cases k with
  | ofNat n => exact Nat.toList_repr
  | negSucc n =>
    have htext : toString (Int.negSucc n) = "-" ++ (n + 1).repr := rfl
    rw [htext, String.toList_append, Nat.toList_repr, decide_eq_true (Int.negSucc_lt_zero n)]
    rfl

/-- An exponent without a sign: it starts with a digit. -/
theorem readExponent_of_digit {d : Char} (hd : d.isDigit = true) {cs ds rest : List Char}
    (hspan : (d :: cs).span Char.isDigit = (ds, rest)) (hds : ds.isEmpty = false) :
    readExponent ('e' :: d :: cs) = some (some (Decimal.digitsValue ds : Int), rest) := by
  have hminus : d ≠ '-' := by rintro rfl; cases hd
  have hplus : d ≠ '+' := by rintro rfl; cases hd
  simp only [readExponent, true_or, if_true, List.cons.injEq, hminus, hplus, false_and, imp_self,
    implies_true, hspan, hds, Bool.false_eq_true, if_false]

/-- **An exponent is read back.** -/
theorem readExponent_toString (k : Int) {rest : List Char} (hrest : NumberEnds rest) :
    readExponent ('e' :: ((toString k).toList ++ rest)) = some (some k, rest) := by
  have hspan := Decimal.span_toDigits k.natAbs hrest.noDigitNext
  have hdigits := isEmpty_toDigits k.natAbs
  rw [toList_toString_int]
  by_cases hneg : k < 0
  · have hk : -(k.natAbs : Int) = k := by omega
    simp only [readExponent, signed, hneg, decide_true, true_or, if_true, List.cons_append, hspan,
      hdigits, Bool.false_eq_true, if_false, Decimal.digitsValue_toDigits, hk]
  · have hk : (k.natAbs : Int) = k := by omega
    have hsigned : signed (decide (k < 0)) (Nat.toDigits 10 k.natAbs) = Nat.toDigits 10 k.natAbs := by
      rw [decide_eq_false hneg]
      rfl
    obtain ⟨d, ds, hds, hd⟩ := Decimal.toDigits_eq_cons k.natAbs
    rw [hds, List.cons_append] at hspan
    rw [hsigned, hds, List.cons_append, readExponent_of_digit hd hspan rfl, ← hds,
      Decimal.digitsValue_toDigits, hk]

/-- **A number with an exponent is read back.** -/
theorem readNumber_real (d : Decimal) {rest : List Char} (hrest : NumberEnds rest) :
    readNumber d.negative
        (Nat.toDigits 10 d.digits ++ 'e' :: ((toString d.exponent).toList ++ rest))
      = some (.real d, rest) := by
  have hfraction : ∀ cs, readFraction ('e' :: cs) = some ([], 'e' :: cs) := fun _ => rfl
  rw [readNumber_toDigits (.cons rfl _) (hfraction _) (readExponent_toString d.exponent hrest)]
  rfl

end Lifecycle.Json
