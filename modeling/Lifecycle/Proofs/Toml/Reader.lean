import Lifecycle.Proofs.Toml.Text
import Mathlib

/-!
# Reading the lines of canonical TOML

* `ReadAs`: a text that is read as a value, with what follows left over. It is so for a string in quotes and
  for a list of them (`readAs_quote`, `readAs_quoteEach`).
* `Says`: a text that is one line. It is so for a header in double brackets and for a key with such a value
  (`says_elementLine`, `says_assignmentLine`).
* **`parse?_of_says`**: what the lines of a document say is what the document is built from.

A reader needs no more fuel than its text has characters.
-/

namespace Lifecycle.Toml

/-! ## Values -/

/-- A text that is read as a value, with what follows left over. -/
structure ReadAs (text : String) (v : Value) : Prop where
  /-- No blanks are skipped in front of it. -/
  starts : ∀ rest, skipBlanks (text.toList ++ rest) = text.toList ++ rest
  /-- Only one more quote could be taken for a part of it. -/
  reads : ∀ fuel rest, text.toList.length ≤ fuel → rest.head? ≠ some '"' →
    readValue fuel maxDepth (text.toList ++ rest) = some (v, rest)

/-- A string is read wherever a value is. -/
theorem readValue_quote (s : String) (fuel depth : Nat) {rest : List Char} (hrest : rest.head? ≠ some '"') :
    readValue (fuel + 1) depth ((quote s).toList ++ rest) = some (.string s, rest) := by
  have hread := readString_quote s hrest
  rw [toList_quote, List.cons_append] at hread ⊢
  have hvalue : ∀ cs, readValue (fuel + 1) depth ('"' :: cs)
      = (readString ('"' :: cs)).map fun read => (.string read.1, read.2) := fun _ => rfl
  rw [hvalue, hread]
  rfl

theorem readAs_quote (s : String) : ReadAs (quote s) (.string s) where
  starts rest := by
    rw [toList_quote]
    rfl
  reads fuel rest hfuel hrest := by
    rw [toList_quote, List.length_cons] at hfuel
    obtain ⟨fuel, rfl⟩ := Nat.exists_eq_succ_of_ne_zero (Nat.ne_zero_of_lt hfuel)
    exact readValue_quote s fuel maxDepth hrest

/-- The text of the items of a list. -/
def itemsText (ss : List String) : List Char := (", ".intercalate (ss.map quote)).toList

theorem itemsText_singleton (s : String) : itemsText [s] = (quote s).toList := by
  rw [itemsText, List.map_singleton, String.intercalate_singleton]

theorem itemsText_cons_cons (s t : String) (ss : List String) :
    itemsText (s :: t :: ss) = (quote s).toList ++ ',' :: ' ' :: itemsText (t :: ss) := by
  rw [itemsText, itemsText, List.map_cons, List.map_cons, String.intercalate_cons_cons]
  simp

/-- The items of a list start with a quote. -/
theorem exists_itemsText_cons (s : String) (ss : List String) :
    ∃ cs, itemsText (s :: ss) = '"' :: cs := by
  cases ss with
  | nil => exact ⟨_, by rw [itemsText_singleton, toList_quote]⟩
  | cons t ss => exact ⟨_, by rw [itemsText_cons_cons, toList_quote, List.cons_append]⟩

/-- A blank in front of an item is skipped. -/
theorem readItems_blank (fuel depth : Nat) (acc : List Value) (cs : List Char) :
    readItems fuel depth acc (' ' :: cs) = readItems fuel depth acc cs := by
  cases fuel with
  | zero => rfl
  | succ fuel =>
    have hskip : skipFiller false (' ' :: cs) = skipFiller false cs := rfl
    rw [readItems, readItems, hskip]

/-- What starts with a quote is an item, whose end tells whether more follow. -/
theorem readItems_item (fuel depth : Nat) (acc : List Value) (cs : List Char) :
    readItems (fuel + 1) depth acc ('"' :: cs) = (do
      let (v, rest) ← readValue fuel depth ('"' :: cs)
      match ← skipFiller false rest with
      | ',' :: rest => readItems fuel depth (v :: acc) rest
      | ']' :: rest => return (.array (v :: acc).reverse, rest)
      | _ => none) := rfl

/-- The last item of a list. -/
theorem readItems_singleton (s : String) (fuel depth : Nat) (acc : List Value) (rest : List Char) :
    readItems (fuel + 2) depth acc (itemsText [s] ++ ']' :: rest)
      = some (.array (acc.reverse ++ [.string s]), rest) := by
  have hread : readValue (fuel + 1) depth ((quote s).toList ++ ']' :: rest)
      = some (.string s, ']' :: rest) := readValue_quote s fuel depth (by simp)
  rw [itemsText_singleton]
  rw [toList_quote, List.cons_append] at hread ⊢
  rw [readItems_item, hread, ← List.reverse_cons]
  rfl

/-- An item of a list before others. -/
theorem readItems_cons_cons (s t : String) (ss : List String) (fuel depth : Nat) (acc : List Value)
    (rest : List Char) : readItems (fuel + 2) depth acc (itemsText (s :: t :: ss) ++ ']' :: rest)
      = readItems (fuel + 1) depth (.string s :: acc) (itemsText (t :: ss) ++ ']' :: rest) := by
  have hread : readValue (fuel + 1) depth
      ((quote s).toList ++ ',' :: ' ' :: (itemsText (t :: ss) ++ ']' :: rest))
        = some (.string s, ',' :: ' ' :: (itemsText (t :: ss) ++ ']' :: rest)) :=
    readValue_quote s fuel depth (by simp)
  rw [itemsText_cons_cons, List.append_assoc, List.cons_append, List.cons_append]
  rw [toList_quote, List.cons_append] at hread ⊢
  rw [readItems_item, hread]
  exact readItems_blank (fuel + 1) depth (.string s :: acc) _

/-- **The items of a list**, up to its bracket. Each takes one unit of fuel, and its text is no shorter. -/
theorem readItems_itemsText (ss : List String) (s : String) (fuel depth : Nat) (acc : List Value)
    (rest : List Char) (hfuel : (itemsText (s :: ss)).length < fuel) :
    readItems fuel depth acc (itemsText (s :: ss) ++ ']' :: rest)
      = some (.array (acc.reverse ++ (s :: ss).map .string), rest) := by
  induction ss generalizing s fuel acc with
  | nil =>
    obtain ⟨cs, hcs⟩ := exists_itemsText_cons s []
    rw [hcs, List.length_cons] at hfuel
    obtain ⟨fuel, rfl⟩ := Nat.exists_eq_add_of_le' (show 2 ≤ fuel by omega)
    exact readItems_singleton s fuel depth acc rest
  | cons t ss ih =>
    rw [itemsText_cons_cons, List.length_append, List.length_cons, List.length_cons] at hfuel
    obtain ⟨fuel, rfl⟩ := Nat.exists_eq_add_of_le' (show 2 ≤ fuel by omega)
    rw [readItems_cons_cons, ih t (fuel + 1) (.string s :: acc) (by omega), List.reverse_cons,
      List.append_assoc]
    rfl

theorem toList_quoteEach (ss : List String) :
    (quoteEach ss).toList = '[' :: (itemsText ss ++ [']']) := by
  simp [quoteEach, itemsText]

theorem readAs_quoteEach (ss : List String) : ReadAs (quoteEach ss) (.array (ss.map .string)) where
  starts rest := by
    rw [toList_quoteEach]
    rfl
  reads fuel rest hfuel _ := by
    rw [toList_quoteEach, List.length_cons, List.length_append, List.length_singleton] at hfuel
    obtain ⟨fuel, rfl⟩ := Nat.exists_eq_add_of_le' (show 2 ≤ fuel by omega)
    rw [toList_quoteEach, List.cons_append, List.append_assoc, List.singleton_append]
    -- the bracket takes one of the levels that arrays may be nested
    have harray : ∀ cs, readValue (fuel + 2) maxDepth ('[' :: cs)
        = readItems (fuel + 1) (maxDepth - 1) [] cs := fun _ => rfl
    rw [harray]
    cases ss with
    | nil => rfl
    | cons s ss => exact readItems_itemsText ss s (fuel + 1) (maxDepth - 1) [] rest (by omega)

/-! ## Lines -/

/-- A text that is one line with its end, and what the line says. -/
structure Says (text : String) (line : Line) : Prop where
  starts : StartsLine text.toList
  reads : ∀ fuel rest, text.toList.length ≤ fuel → readLine fuel (text.toList ++ rest) = some (line, rest)

theorem says_elementLine {key : String} (hkey : IsBareKey key) :
    Says (elementLine key) (.element ⟨[], key⟩) := by
  have htext : (elementLine key).toList = '[' :: '[' :: (key.toList ++ [']', ']', '\n']) := by
    simp [elementLine]
  refine ⟨⟨'[', _, htext, Or.inl rfl⟩, fun fuel rest _ => ?_⟩
  have hread : readKey (skipBlanks (key.toList ++ ']' :: ']' :: '\n' :: rest))
      = some (⟨[], key⟩, ']' :: ']' :: '\n' :: rest) := by
    rw [(hkey.startsLine.append _).skipBlanks]
    exact readKey_bare hkey (keyEnds_bracket _)
  rw [htext, List.cons_append, List.cons_append, List.append_assoc, readLine]
  simp only [List.cons_append, List.nil_append]
  rw [hread]
  rfl

/-- A line that starts like a key is an assignment. -/
theorem readLine_bare {key : String} (hkey : IsBareKey key) (fuel : Nat) (rest : List Char) :
    readLine fuel (key.toList ++ rest) = (do
      let (k, rest) ← readKey (key.toList ++ rest)
      let (v, rest) ← readValue fuel maxDepth (← readEquals rest)
      return (.assignment k v, ← endLine rest)) := by
  obtain ⟨c, cs, hcs, hbare⟩ := hkey.exists_cons
  have hbracket : c ≠ '[' := by
    rintro rfl
    cases hbare
  rw [hcs, List.cons_append, readLine]
  · exact fun _ h => hbracket (List.cons.inj h).1
  · exact fun _ h => hbracket (List.cons.inj h).1

theorem says_assignmentLine {key value : String} {v : Value} (hkey : IsBareKey key)
    (hvalue : ReadAs value v) : Says (assignmentLine key value) (.assignment ⟨[], key⟩ v) := by
  have htext : (assignmentLine key value).toList
      = key.toList ++ ' ' :: '=' :: ' ' :: (value.toList ++ ['\n']) := by
    simp [assignmentLine]
  refine ⟨htext ▸ hkey.startsLine.append _, fun fuel rest hfuel => ?_⟩
  have hlength : value.toList.length ≤ fuel := by
    simp only [htext, List.length_append, List.length_cons] at hfuel
    omega
  have hreadKey := readKey_bare hkey (keyEnds_equals (' ' :: (value.toList ++ '\n' :: rest)))
  have hequals : readEquals (skipBlanks (' ' :: '=' :: ' ' :: (value.toList ++ '\n' :: rest)))
      = some (value.toList ++ '\n' :: rest) := congrArg some (hvalue.starts ('\n' :: rest))
  have hread := hvalue.reads fuel ('\n' :: rest) hlength (by simp)
  rw [htext, List.append_assoc, readLine_bare hkey]
  simp only [List.cons_append, List.append_assoc, List.nil_append]
  rw [hreadKey]
  simp only [Option.bind_eq_bind, Option.bind_some, hequals, hread]
  rfl

/-! ## Documents -/

/-- **Lines are read one after the other.** Each takes one unit of fuel, and its text is no shorter. -/
theorem readLines_of_says {texts : List String} {lines : List Line} (h : List.Forall₂ Says texts lines)
    (fuel : Nat) (acc : List Line) (hfuel : (texts.flatMap String.toList).length < fuel) :
    readLines fuel acc (texts.flatMap String.toList) = some (acc.reverse ++ lines) := by
  induction h generalizing fuel acc with
  | nil =>
    obtain ⟨fuel, rfl⟩ := Nat.exists_eq_succ_of_ne_zero (Nat.ne_zero_of_lt hfuel)
    exact congrArg some (List.append_nil acc.reverse).symm
  | @cons text line texts lines hline _ ih =>
    obtain ⟨fuel, rfl⟩ := Nat.exists_eq_succ_of_ne_zero (Nat.ne_zero_of_lt hfuel)
    rw [List.flatMap_cons] at hfuel ⊢
    have hskip := (hline.starts.append (texts.flatMap String.toList)).skipFiller
    have hread := hline.reads fuel (texts.flatMap String.toList) (by simp at hfuel; omega)
    obtain ⟨c, cs, hcs, -⟩ := hline.starts.exists_cons
    rw [hcs, List.length_append, List.length_cons] at hfuel
    rw [hcs, List.cons_append] at hskip hread ⊢
    rw [readLines, hskip]
    simp only [Option.bind_eq_bind, Option.bind_some, hread]
    rw [ih fuel (line :: acc) (by omega), List.reverse_cons, List.append_assoc]
    rfl

/-- **A document is built from what its lines say.** -/
theorem parse?_of_says {texts : List String} {lines : List Line} (h : List.Forall₂ Says texts lines) :
    parse? (String.join texts) = ofLines? lines := by
  have hmark : dropMark (texts.flatMap String.toList) = texts.flatMap String.toList := by
    cases h with
    | nil => rfl
    | cons hline _ =>
      rw [List.flatMap_cons]
      exact (hline.starts.append _).dropMark
  rw [parse?, String.toList_join, hmark, readLines_of_says h _ [] (Nat.lt_succ_self _)]
  rfl

end Lifecycle.Toml
