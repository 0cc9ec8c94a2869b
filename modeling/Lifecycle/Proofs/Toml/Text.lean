import Lifecycle.Manifest.Toml
import Lifecycle.Proofs.Json.Scalar
import Lifecycle.Toml.Reader
import Mathlib

/-!
# Reading the strings and keys of TOML

* **`readBasic_escapeChar`**: a character is read back from its escape.
* **`readString_quote`**: a string is read back from its quotes, unless one more quote follows.
* `readKey_bare`: a key without quotes is read up to what cannot belong to it.
-/

namespace Lifecycle.Toml

/-! ## Characters of basic strings -/

/-- Four digits stand for a character below U+0080. -/
theorem scalar?_digitChar {n : Nat} (h : n < 0x80) :
    scalar? ['0', '0', Nat.digitChar (n / 16), Nat.digitChar (n % 16)] = some (Char.ofNat n) := by
  have hzero : Json.hexValue? '0' = some 0 := rfl
  have hvalue : n / 16 * 16 + n % 16 = n := by omega
  have hvalid : n.isValidChar := Or.inl (by omega)
  simp only [scalar?, List.foldlM_cons, List.foldlM_nil, hzero,
    Json.hexValue?_digitChar (show n / 16 < 16 by omega),
    Json.hexValue?_digitChar (show n % 16 < 16 by omega), Option.map_some, Option.bind_eq_bind,
    Option.bind_some, Option.pure_def, Nat.zero_mul, Nat.zero_add, hvalue, if_pos hvalid]

/-- An escape by a code point of four digits. -/
theorem readBasic_of_scalar? {a b c d e : Char} (h : scalar? [a, b, c, d] = some e)
    (acc cs : List Char) : readBasic acc ('\\' :: 'u' :: a :: b :: c :: d :: cs) = readBasic (e :: acc) cs := by
  rw [readBasic, h]
  rfl

/-- An escape by a letter. -/
theorem readBasic_of_escape? {c e : Char} (h : escape? c = some e) (acc cs : List Char) :
    readBasic acc ('\\' :: c :: cs) = readBasic (e :: acc) cs := by
  have hne (d : Char) (hd : escape? d = none) : c ≠ d := by
    rintro rfl
    cases hd.symm.trans h
  rw [readBasic, h]
  · rfl
  · exact fun _ _ _ hc _ => hne 'x' rfl hc
  · exact fun _ _ _ _ _ hc _ => hne 'u' rfl hc
  · exact fun _ _ _ _ _ _ _ _ _ hc _ => hne 'U' rfl hc

/-- A character that stands for itself. -/
theorem readBasic_of_isText {c : Char} (hquote : c ≠ '"') (hbackslash : c ≠ '\\')
    (htext : isText c = true) (acc cs : List Char) :
    readBasic acc (c :: cs) = readBasic (c :: acc) cs := by
  have hplain : (isText c && c != '\\') = true := by simp [htext, hbackslash]
  rw [readBasic, if_pos hplain]
  · exact hquote
  · exact fun _ _ _ hc _ => hbackslash hc
  · exact fun _ _ _ _ _ hc _ => hbackslash hc
  · exact fun _ _ _ _ _ _ _ _ _ hc _ => hbackslash hc
  · exact fun _ _ hc _ => hbackslash hc

/-- **A character is read back.** -/
theorem readBasic_escapeChar (c : Char) (acc cs : List Char) :
    readBasic acc (escapeChar c ++ cs) = readBasic (c :: acc) cs := by
  unfold escapeChar
  split_ifs with hletter hcontrol
  · exact readBasic_of_escape? (by rcases hletter with rfl | rfl <;> rfl) acc cs
  · have hread := readBasic_of_scalar? (scalar?_digitChar (show c.toNat < 0x80 by omega)) acc cs
    rwa [Char.ofNat_toNat] at hread
  · obtain ⟨hquote, hbackslash⟩ := not_or.mp hletter
    have htext : isText c = true := by
      simp only [isText, Bool.or_eq_true, Bool.and_eq_true, decide_eq_true_eq, bne_iff_ne]
      omega
    exact readBasic_of_isText hquote hbackslash htext acc cs

/-- The characters of a string, up to the quote that ends it. -/
theorem readBasic_flatMap_escapeChar :
    ∀ (cs acc rest : List Char), readBasic acc (cs.flatMap escapeChar ++ '"' :: rest)
      = some (String.ofList (acc.reverse ++ cs), rest)
  | [], acc, rest => by
    rw [List.flatMap_nil, List.nil_append, readBasic, List.append_nil]
  | c :: cs, acc, rest => by
    rw [List.flatMap_cons, List.append_assoc, readBasic_escapeChar,
      readBasic_flatMap_escapeChar cs, List.reverse_cons, List.append_assoc]
    rfl

/-! ## Strings in quotes -/

theorem toList_quote (s : String) : (quote s).toList = '"' :: (s.toList.flatMap escapeChar ++ ['"']) := by
  rw [quote, String.toList_ofList, List.cons_append]

/-- An escape does not start with a quote. -/
theorem exists_escapeChar_eq_cons (c : Char) : ∃ d ds, escapeChar c = d :: ds ∧ d ≠ '"' := by
  unfold escapeChar
  split_ifs with hletter hcontrol
  · exact ⟨'\\', _, rfl, by decide⟩
  · exact ⟨'\\', _, rfl, by decide⟩
  · exact ⟨c, [], rfl, (not_or.mp hletter).1⟩

/-- A text with one quote in front, but not three, is no string over several lines. -/
theorem readString_of_single {cs : List Char} (h : ∀ rest, cs ≠ '"' :: '"' :: rest) :
    readString ('"' :: cs) = readBasic [] cs := by
  rw [readString]
  exact h

/-- **A string is read back from its quotes.** Without the condition, the quotes of an empty string could be
two of three. -/
theorem readString_quote (s : String) {rest : List Char} (hrest : rest.head? ≠ some '"') :
    readString ((quote s).toList ++ rest) = some (s, rest) := by
  have hsingle : ∀ after, s.toList.flatMap escapeChar ++ '"' :: rest ≠ '"' :: '"' :: after := by
    intro after h
    cases hs : s.toList with
    | nil =>
      rw [hs] at h
      obtain ⟨-, rfl⟩ := List.cons.inj h
      exact hrest rfl
    | cons c cs =>
      obtain ⟨d, ds, hescape, hd⟩ := exists_escapeChar_eq_cons c
      rw [hs, List.flatMap_cons, hescape] at h
      exact hd (List.cons.inj h).1
  rw [toList_quote, List.cons_append, List.append_assoc, List.singleton_append,
    readString_of_single hsingle, readBasic_flatMap_escapeChar, List.reverse_nil, List.nil_append,
    String.ofList_toList]

/-! ## Keys without quotes -/

/-- A key of one part that needs no quotes. -/
def IsBareKey (key : String) : Prop := key ≠ "" ∧ key.toList.all isBareChar = true

/-- A text that does not go on with a key without quotes that stands before it. -/
def KeyEnds (rest : List Char) : Prop :=
  (∀ c ∈ rest.head?, isBareChar c = false) ∧ (skipBlanks rest).head? ≠ some '.'

theorem keyEnds_bracket (rest : List Char) : KeyEnds (']' :: rest) := by
  have hskip : skipBlanks (']' :: rest) = ']' :: rest := rfl
  rw [KeyEnds, hskip]
  exact ⟨fun _ hc => Option.some.inj hc ▸ rfl, by simp⟩

theorem keyEnds_equals (rest : List Char) : KeyEnds (' ' :: '=' :: rest) := by
  have hskip : skipBlanks (' ' :: '=' :: rest) = '=' :: rest := rfl
  rw [KeyEnds, hskip]
  exact ⟨fun _ hc => Option.some.inj hc ▸ rfl, by simp⟩

theorem IsBareKey.exists_cons {key : String} (h : IsBareKey key) :
    ∃ c cs, key.toList = c :: cs ∧ isBareChar c = true := by
  obtain ⟨c, cs, hcs⟩ := List.exists_cons_of_ne_nil fun hnil => h.1 (String.toList_eq_nil_iff.mp hnil)
  exact ⟨c, cs, hcs, List.all_eq_true.mp h.2 c (hcs ▸ List.mem_cons_self)⟩

theorem readKeyPart_bare {key : String} (hkey : IsBareKey key) {rest : List Char}
    (hrest : ∀ c ∈ rest.head?, isBareChar c = false) :
    readKeyPart (key.toList ++ rest) = some (key, rest) := by
  obtain ⟨c, cs, hcs, hbare⟩ := hkey.exists_cons
  have hspan : (c :: (cs ++ rest)).span isBareChar = (key.toList, rest) := by
    rw [← List.cons_append, ← hcs]
    exact Decimal.span_append (List.all_eq_true.mp hkey.2) hrest
  have hword : ¬ key.toList.isEmpty = true := by simp [hcs]
  rw [hcs, List.cons_append]
  unfold readKeyPart
  split
  case h_1 heq =>
    obtain ⟨rfl, -⟩ := List.cons.inj heq
    cases hbare
  case h_2 heq =>
    obtain ⟨rfl, -⟩ := List.cons.inj heq
    cases hbare
  case h_3 =>
    rw [hspan]
    dsimp only
    rw [if_neg hword, String.ofList_toList]

/-- **A key without quotes is read**, and the blanks after it are skipped. -/
theorem readKey_bare {key : String} (hkey : IsBareKey key) {rest : List Char} (hrest : KeyEnds rest) :
    readKey (key.toList ++ rest) = some (⟨[], key⟩, skipBlanks rest) := by
  have hdepth : maxDepth = 79 + 1 := rfl
  rw [readKey, hdepth, readKeyUpTo, readKeyPart_bare hkey hrest.1]
  simp only [Option.bind_eq_bind, Option.bind_some]
  split
  case h_1 heq => exact absurd (congrArg List.head? heq) hrest.2
  case h_2 => rfl

/-! ## Starts of lines -/

/-- A text that starts with a line: a header, or a key without quotes. -/
def StartsLine (cs : List Char) : Prop := ∃ c rest, cs = c :: rest ∧ (c = '[' ∨ isBareChar c = true)

theorem IsBareKey.startsLine {key : String} (h : IsBareKey key) : StartsLine key.toList := by
  obtain ⟨c, cs, hcs, hbare⟩ := h.exists_cons
  exact ⟨c, cs, hcs, Or.inr hbare⟩

namespace StartsLine

variable {cs : List Char}

theorem append (h : StartsLine cs) (rest : List Char) : StartsLine (cs ++ rest) := by
  obtain ⟨c, cs, rfl, hc⟩ := h
  exact ⟨c, cs ++ rest, rfl, hc⟩

/-- A line starts with none of the characters that may be skipped. -/
theorem exists_cons (h : StartsLine cs) : ∃ c rest, cs = c :: rest ∧
    isBlank c = false ∧ c ≠ '\n' ∧ c ≠ '\r' ∧ c ≠ '#' ∧ c ≠ '\uFEFF' := by
  obtain ⟨c, rest, rfl, hc⟩ := h
  have hblank : isBlank c = false := by
    refine Bool.eq_false_iff.mpr fun hblank => ?_
    rw [isBlank, Bool.or_eq_true, beq_iff_eq, beq_iff_eq] at hblank
    rcases hblank with rfl | rfl <;> exact absurd hc (by decide)
  refine ⟨c, rest, rfl, hblank, ?_, ?_, ?_, ?_⟩
  all_goals
    rintro rfl
    exact absurd hc (by decide)

theorem skipBlanks (h : StartsLine cs) : skipBlanks cs = cs := by
  obtain ⟨c, rest, rfl, hblank, -⟩ := h.exists_cons
  exact List.dropWhile_cons_of_neg (Bool.eq_false_iff.mp hblank)

theorem skipFiller (h : StartsLine cs) : skipFiller false cs = some cs := by
  obtain ⟨c, rest, rfl, hblank, hnewline, hreturn, hcomment, -⟩ := h.exists_cons
  rw [Toml.skipFiller, if_neg Bool.false_ne_true, if_neg (Bool.eq_false_iff.mp hblank), if_neg hcomment]
  · exact hnewline
  · exact fun _ hc _ => hreturn hc

theorem dropMark (h : StartsLine cs) : dropMark cs = cs := by
  obtain ⟨c, rest, rfl, -, -, -, -, hmark⟩ := h.exists_cons
  rw [Toml.dropMark]
  exact fun _ hc => hmark (List.cons.inj hc).1

end StartsLine

end Lifecycle.Toml
