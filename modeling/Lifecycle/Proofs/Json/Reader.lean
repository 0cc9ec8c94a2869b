import Lifecycle.Proofs.Json.Scalar
import Mathlib

/-!
# Reading JSON undoes writing it

A value is written without any space (`compact`) or on several lines (`pretty`). A reader passes over space,
so it reads both texts alike.

* `ReadBack`: a text that is read as a value, with what follows left over; `ReadItems` and `ReadMembers` say
  so of what stands between brackets or braces. A reader needs no more fuel than the text has characters.
* `readItems_spread`, `readMembers_spread`: items and members that are read back can be spread over lines or
  stand side by side.
* **`readBack_compact`, `readBack_prettyAt`**: every value is read back from both texts, by induction on the
  value.
* **`parse?_compact`, `parse?_pretty_append`**: so the value of either text is the value that was written.
-/

namespace Lifecycle.Json

/-- Values are built from values without parts by arrays and objects. -/
theorem induct {P : Json → Prop} (null : P null) (bool : ∀ b, P (bool b)) (int : ∀ k, P (int k))
    (real : ∀ d, P (real d)) (str : ∀ s, P (str s)) (arr : ∀ vs, (∀ v ∈ vs, P v) → P (arr vs))
    (obj : ∀ ms, (∀ m ∈ ms, P m.2) → P (obj ms)) : ∀ v, P v
  | .null => null
  | .bool b => bool b
  | .int k => int k
  | .real d => real d
  | .str s => str s
  | .arr vs => arr vs fun v _hv => induct null bool int real str arr obj v
  | .obj ms => obj ms fun m _hm => induct null bool int real str arr obj m.2
termination_by v => sizeOf v
decreasing_by
  · have hlt := List.sizeOf_lt_of_mem _hv
    rw [Json.arr.sizeOf_spec]
    omega
  · have hlt := List.sizeOf_lt_of_mem _hm
    have hsnd : sizeOf m.2 < sizeOf m := by
      obtain ⟨k, v⟩ := m
      simp only [Prod.mk.sizeOf_spec]
      omega
    rw [Json.obj.sizeOf_spec]
    omega

/-! ## Space -/

/-- A text of space. -/
def IsSpace (s : List Char) : Prop := ∀ c ∈ s, c = ' ' ∨ c = '\t' ∨ c = '\n' ∨ c = '\r'

variable {s before after : List Char}

theorem isSpace_nil : IsSpace [] := fun _ hc => absurd hc List.not_mem_nil

theorem skipSpace_of_not_space {c : Char} (h : ¬ (c = ' ' ∨ c = '\t' ∨ c = '\n' ∨ c = '\r'))
    (cs : List Char) : skipSpace (c :: cs) = c :: cs := if_neg h

theorem skipSpace_append (h : IsSpace s) (cs : List Char) : skipSpace (s ++ cs) = skipSpace cs := by
  induction s with
  | nil => rfl
  | cons c s ih =>
    obtain ⟨hc, hs⟩ := List.forall_mem_cons.mp h
    rw [List.cons_append, skipSpace, if_pos hc]
    exact ih hs

theorem skipSpace_skipSpace (cs : List Char) : skipSpace (skipSpace cs) = skipSpace cs := by
  induction cs with
  | nil => rfl
  | cons c cs ih =>
    by_cases hc : c = ' ' ∨ c = '\t' ∨ c = '\n' ∨ c = '\r'
    · rw [skipSpace, if_pos hc, ih]
    · rw [skipSpace_of_not_space hc, skipSpace_of_not_space hc]

/-- Space in front of a value is passed over. -/
theorem readValue_skipSpace (fuel : Nat) (cs : List Char) :
    readValue fuel (skipSpace cs) = readValue fuel cs := by
  cases fuel with
  | zero => rfl
  | succ fuel => rw [readValue, readValue, skipSpace_skipSpace]

theorem readItems_skipSpace (fuel : Nat) (acc : List Json) (cs : List Char) :
    readItems fuel acc (skipSpace cs) = readItems fuel acc cs := by
  cases fuel with
  | zero => rfl
  | succ fuel => rw [readItems, readItems, readValue_skipSpace]

theorem readMembers_skipSpace (fuel : Nat) (acc : List (String × Json)) (cs : List Char) :
    readMembers fuel acc (skipSpace cs) = readMembers fuel acc cs := by
  cases fuel with
  | zero => rfl
  | succ fuel => rw [readMembers, readMembers, skipSpace_skipSpace]

/-- A number ends where space follows. -/
theorem NumberEnds.append (h : IsSpace s) {rest : List Char} (hrest : NumberEnds rest) :
    NumberEnds (s ++ rest) := by
  cases s with
  | nil => exact hrest
  | cons c s =>
    refine .cons ?_ _
    rcases h c List.mem_cons_self with rfl | rfl | rfl | rfl <;> decide

/-! ## Texts of values -/

variable {v : Json} {cs ds : List Char} {vs : List Json} {ms : List (String × Json)} {k : String}

/-- A text that is read as a value, with what follows it left over, if the fuel is at least the length of
the text. -/
def ReadBack (v : Json) (cs : List Char) : Prop := ∀ (fuel : Nat) (rest : List Char),
  cs.length ≤ fuel → NumberEnds rest → readValue fuel (cs ++ rest) = some (v, rest)

/-- It is enough to read with some fuel, since no value is read from nothing. -/
theorem ReadBack.of_succ (hne : cs ≠ []) (h : ∀ (fuel : Nat) (rest : List Char),
    cs.length ≤ fuel + 1 → NumberEnds rest → readValue (fuel + 1) (cs ++ rest) = some (v, rest)) :
    ReadBack v cs := by
  intro fuel rest hfuel hrest
  cases fuel with
  | zero => exact absurd (List.length_eq_zero_iff.mp (Nat.le_zero.mp hfuel)) hne
  | succ fuel => exact h fuel rest hfuel hrest

/-- Space may stand in front of a value. -/
theorem ReadBack.space (hs : IsSpace s) (h : ReadBack v cs) : ReadBack v (s ++ cs) := by
  intro fuel rest hfuel hrest
  rw [List.length_append] at hfuel
  rw [← readValue_skipSpace, List.append_assoc, skipSpace_append hs, readValue_skipSpace]
  exact h fuel rest (by omega) hrest

/-- Digits are read as a number. -/
theorem readValue_of_digit {d : Char} (hd : d.isDigit = true) (fuel : Nat) (cs : List Char) :
    readValue (fuel + 1) (d :: cs) = readNumber false (d :: cs) := by
  have hskip : skipSpace (d :: cs) = d :: cs := by
    refine skipSpace_of_not_space ?_ cs
    rintro (rfl | rfl | rfl | rfl) <;> cases hd
  rw [readValue, hskip]
  split
  case h_8 => rfl
  all_goals
    rename_i heq
    obtain ⟨rfl, -⟩ := List.cons.inj heq
    cases hd

theorem readValue_signed (negative : Bool) (n fuel : Nat) (rest : List Char) :
    readValue (fuel + 1) (signed negative (Nat.toDigits 10 n ++ rest))
      = readNumber negative (Nat.toDigits 10 n ++ rest) := by
  cases negative with
  | true => rfl
  | false =>
    obtain ⟨d, ds, hds, hd⟩ := Decimal.toDigits_eq_cons n
    rw [hds]
    exact readValue_of_digit hd fuel (ds ++ rest)

theorem signed_ne_nil (negative : Bool) (n : Nat) (cs : List Char) :
    signed negative (Nat.toDigits 10 n ++ cs) ≠ [] := by
  cases negative with
  | true => exact List.cons_ne_nil _ _
  | false => exact List.append_ne_nil_of_left_ne_nil Nat.toDigits_ne_nil cs

theorem readBack_null : ReadBack null ['n', 'u', 'l', 'l'] :=
  .of_succ (List.cons_ne_nil _ _) fun _ _ _ _ => rfl

theorem readBack_bool (b : Bool) :
    ReadBack (bool b) (if b then ['t', 'r', 'u', 'e'] else ['f', 'a', 'l', 's', 'e']) := by
  cases b <;> exact .of_succ (List.cons_ne_nil _ _) fun _ _ _ _ => rfl

theorem readBack_int (k : Int) : ReadBack (int k) (toString k).toList := by
  rw [toList_toString_int, ← List.append_nil (Nat.toDigits 10 k.natAbs)]
  refine .of_succ (signed_ne_nil _ _ _) fun fuel rest _ hrest => ?_
  rw [List.append_nil, signed_append, readValue_signed, readNumber_int (by simp; omega) hrest]
  by_cases hneg : k < 0
  · have hk : -(k.natAbs : Int) = k := by omega
    rw [decide_eq_true hneg, if_pos rfl, hk]
  · have hk : (k.natAbs : Int) = k := by omega
    rw [decide_eq_false hneg, if_neg Bool.false_ne_true, hk]

theorem toList_realText (d : Decimal) : (realText d).toList
    = signed d.negative (Nat.toDigits 10 d.digits ++ 'e' :: (toString d.exponent).toList) := by
  cases hnegative : d.negative <;> simp [realText, signed, hnegative]

theorem readBack_real (d : Decimal) : ReadBack (real d) (realText d).toList := by
  rw [toList_realText]
  refine .of_succ (signed_ne_nil _ _ _) fun fuel rest _ hrest => ?_
  rw [signed_append, List.append_assoc, List.cons_append, readValue_signed, readNumber_real d hrest]

theorem readBack_str (s : String) : ReadBack (str s) (quote s).toList := by
  rw [toList_quote]
  refine .of_succ (List.cons_ne_nil _ _) fun fuel rest _ _ => ?_
  have hread : readValue (fuel + 1) ('"' :: (s.toList.flatMap escapeChar ++ '"' :: rest))
      = (readString [] (s.toList.flatMap escapeChar ++ '"' :: rest)).map fun read =>
        (.str read.1, read.2) := rfl
  rw [List.cons_append, List.append_assoc, List.singleton_append, hread, readString_quote]
  rfl

/-! ## Items and members -/

/-- A text that is read as the items of an array, up to its bracket. Each of them takes one unit of fuel,
and its text is no shorter. -/
def ReadItems (vs : List Json) (cs : List Char) : Prop :=
  ∀ (fuel : Nat) (acc : List Json) (rest : List Char), cs.length < fuel →
    readItems fuel acc (cs ++ ']' :: rest) = some (acc.reverse ++ vs, rest)

/-- A text that is read as the members of an object, up to its brace. -/
def ReadMembers (ms : List (String × Json)) (cs : List Char) : Prop :=
  ∀ (fuel : Nat) (acc : List (String × Json)) (rest : List Char), cs.length < fuel →
    readMembers fuel acc (cs ++ '\x7d' :: rest) = some (acc.reverse ++ ms, rest)

/-- The last item of an array. -/
theorem ReadItems.last (h : ReadBack v cs) (hs : IsSpace s) : ReadItems [v] (cs ++ s) := by
  rintro (_ | fuel) acc rest hfuel
  · exact absurd hfuel (Nat.not_lt_zero _)
  rw [List.length_append] at hfuel
  have hbracket : skipSpace (s ++ ']' :: rest) = ']' :: rest := skipSpace_append hs _
  have hv := h fuel (s ++ ']' :: rest) (by omega) (.append hs (.cons (by decide) rest))
  simp only [readItems, List.append_assoc, hv, hbracket, List.reverse_cons]

/-- An item of an array before others. -/
theorem ReadItems.next (h : ReadBack v cs) (hrest : ReadItems vs ds) :
    ReadItems (v :: vs) (cs ++ ',' :: ds) := by
  rintro (_ | fuel) acc rest hfuel
  · exact absurd hfuel (Nat.not_lt_zero _)
  rw [List.length_append, List.length_cons] at hfuel
  have hcomma (cs : List Char) : skipSpace (',' :: cs) = ',' :: cs := rfl
  have hv := h fuel (',' :: (ds ++ ']' :: rest)) (by omega) (.cons (by decide) _)
  simp only [readItems, List.append_assoc, List.cons_append, hv, hcomma,
    hrest fuel (v :: acc) rest (by omega), List.reverse_cons, List.nil_append]

/-- A key, and the text of its value. -/
def memberText (k : String) (cs : List Char) : List Char :=
  '"' :: (k.toList.flatMap escapeChar ++ '"' :: ':' :: cs)

theorem memberText_append (rest : List Char) :
    memberText k cs ++ rest = '"' :: (k.toList.flatMap escapeChar ++ '"' :: ':' :: (cs ++ rest)) := by
  simp [memberText]

/-- The last member of an object. -/
theorem ReadMembers.last (h : ReadBack v cs) (hs : IsSpace s) :
    ReadMembers [(k, v)] (memberText k cs ++ s) := by
  rintro (_ | fuel) acc rest hfuel
  · exact absurd hfuel (Nat.not_lt_zero _)
  simp only [memberText, List.length_append, List.length_cons] at hfuel
  have hquote (cs : List Char) : skipSpace ('"' :: cs) = '"' :: cs := rfl
  have hcolon (cs : List Char) : skipSpace (':' :: cs) = ':' :: cs := rfl
  have hbrace : skipSpace (s ++ '\x7d' :: rest) = '\x7d' :: rest := skipSpace_append hs _
  have hv := h fuel (s ++ '\x7d' :: rest) (by omega) (.append hs (.cons (by decide) rest))
  rw [List.append_assoc, memberText_append]
  simp only [readMembers, hquote, readString_quote, hcolon, hv, hbrace, List.reverse_cons]

/-- A member of an object before others. -/
theorem ReadMembers.next (h : ReadBack v cs) (hrest : ReadMembers ms ds) :
    ReadMembers ((k, v) :: ms) (memberText k cs ++ ',' :: ds) := by
  rintro (_ | fuel) acc rest hfuel
  · exact absurd hfuel (Nat.not_lt_zero _)
  simp only [memberText, List.length_append, List.length_cons] at hfuel
  have hquote (cs : List Char) : skipSpace ('"' :: cs) = '"' :: cs := rfl
  have hcolon (cs : List Char) : skipSpace (':' :: cs) = ':' :: cs := rfl
  have hcomma (cs : List Char) : skipSpace (',' :: cs) = ',' :: cs := rfl
  have hv := h fuel (',' :: (ds ++ '\x7d' :: rest)) (by omega) (.cons (by decide) _)
  rw [List.append_assoc, List.cons_append, memberText_append]
  simp only [readMembers, hquote, readString_quote, hcolon, hv, hcomma,
    hrest fuel ((k, v) :: acc) rest (by omega), List.reverse_cons, List.append_assoc,
    List.cons_append, List.nil_append]

/-- Space may stand in front of the members. -/
theorem ReadMembers.space (hs : IsSpace s) (h : ReadMembers ms cs) : ReadMembers ms (s ++ cs) := by
  intro fuel acc rest hfuel
  rw [List.length_append] at hfuel
  rw [← readMembers_skipSpace, List.append_assoc, skipSpace_append hs, readMembers_skipSpace]
  exact h fuel acc rest (by omega)

/-- **The items of an array between its brackets.** They are not taken for the bracket of an empty array,
since no item could be read there. -/
theorem ReadItems.arr (h : ReadItems vs cs) : ReadBack (arr vs) ('[' :: (cs ++ [']'])) := by
  refine .of_succ (List.cons_ne_nil _ _) fun fuel rest hfuel _ => ?_
  have hskip (cs : List Char) : skipSpace ('[' :: cs) = '[' :: cs := rfl
  have hstart : ∀ rest', skipSpace (cs ++ ']' :: rest) ≠ ']' :: rest' := by
    intro rest' hbracket
    have hread := h (cs.length + 2) [] rest (by omega)
    rw [← readItems_skipSpace, hbracket] at hread
    cases hread
  simp only [List.length_cons, List.length_append, List.length_nil] at hfuel
  simp only [readValue, List.cons_append, List.append_assoc, List.nil_append, hskip]
  rw [readItems_skipSpace, h fuel [] rest (by omega)]
  rfl

/-- **The members of an object between its braces.** -/
theorem ReadMembers.obj (h : ReadMembers ms cs) : ReadBack (obj ms) ('\x7b' :: (cs ++ ['\x7d'])) := by
  refine .of_succ (List.cons_ne_nil _ _) fun fuel rest hfuel _ => ?_
  have hskip (cs : List Char) : skipSpace ('\x7b' :: cs) = '\x7b' :: cs := rfl
  have hstart : ∀ rest', skipSpace (cs ++ '\x7d' :: rest) ≠ '\x7d' :: rest' := by
    intro rest' hbrace
    have hread := h (cs.length + 1) [] rest (by omega)
    rw [← readMembers_skipSpace, hbrace] at hread
    cases hread
  simp only [List.length_cons, List.length_append, List.length_nil] at hfuel
  simp only [readValue, List.cons_append, List.append_assoc, List.nil_append, hskip]
  rw [readMembers_skipSpace, h fuel [] rest (by omega)]
  rfl

/-! ## Layouts -/

/-- Texts with commas between them, `before` in front of each and `after` behind them all. -/
def spread (before after : List Char) (texts : List (List Char)) : List Char :=
  [','].intercalate (texts.map (before ++ ·)) ++ after

theorem spread_singleton (t : List Char) : spread before after [t] = before ++ t ++ after := by
  simp [spread]

theorem spread_cons_cons (t u : List Char) (ts : List (List Char)) :
    spread before after (t :: u :: ts) = before ++ t ++ ',' :: spread before after (u :: ts) := by
  simp [spread, List.intercalate_cons_cons]

theorem readItems_spread (hbefore : IsSpace before) (hafter : IsSpace after)
    {texts : List (List Char)} (h : List.Forall₂ ReadBack vs texts) (hne : vs ≠ []) :
    ReadItems vs (spread before after texts) := by
  induction h with
  | nil => exact absurd rfl hne
  | @cons v t vs ts hv hvs ih =>
    cases hvs with
    | nil =>
      rw [spread_singleton]
      exact .last (hv.space hbefore) hafter
    | cons =>
      rw [spread_cons_cons]
      exact .next (hv.space hbefore) (ih (List.cons_ne_nil _ _))

/-- A text that is read as a member. -/
def ReadMember (m : String × Json) (text : List Char) : Prop :=
  ∃ cs, text = memberText m.1 cs ∧ ReadBack m.2 cs

theorem readMembers_spread (hbefore : IsSpace before) (hafter : IsSpace after)
    {texts : List (List Char)} (h : List.Forall₂ ReadMember ms texts) (hne : ms ≠ []) :
    ReadMembers ms (spread before after texts) := by
  induction h with
  | nil => exact absurd rfl hne
  | @cons m t ms ts hm hms ih =>
    obtain ⟨cs, rfl, hv⟩ := hm
    cases hms with
    | nil =>
      rw [spread_singleton, List.append_assoc]
      exact .space hbefore (.last hv hafter)
    | cons =>
      rw [spread_cons_cons, List.append_assoc]
      exact .space hbefore (.next hv (ih (List.cons_ne_nil _ _)))

/-- What is read back entry by entry. -/
theorem forall₂_map {α : Type} {P : α → List Char → Prop} {f : α → List Char} {xs : List α}
    (h : ∀ x ∈ xs, P x (f x)) : List.Forall₂ P xs (xs.map f) :=
  List.forall₂_map_right_iff.mpr (List.forall₂_same.mpr h)

theorem readBack_arr_nil : ReadBack (arr []) ['[', ']'] :=
  .of_succ (List.cons_ne_nil _ _) fun _ _ _ _ => rfl

theorem readBack_obj_nil : ReadBack (obj []) ['\x7b', '\x7d'] :=
  .of_succ (List.cons_ne_nil _ _) fun _ _ _ _ => rfl

theorem toList_quote_append (k : String) (cs : List Char) :
    (quote k).toList ++ ':' :: cs = memberText k cs := by
  simp [toList_quote, memberText]

/-! ## Without space -/

theorem compactItems_eq_map (vs : List Json) : compactItems vs = vs.map compact := by
  induction vs with
  | nil => rfl
  | cons v vs ih => rw [compactItems, ih, List.map_cons]

theorem compactMembers_eq_map (ms : List (String × Json)) :
    compactMembers ms = ms.map fun m => quote m.1 ++ ":" ++ compact m.2 := by
  induction ms with
  | nil => rfl
  | cons m ms ih => rw [compactMembers, ih, List.map_cons]

theorem toList_compact_arr (vs : List Json) : (compact (arr vs)).toList
    = '[' :: (spread [] [] (vs.map fun v => (compact v).toList) ++ [']']) := by
  simp [compact, compactItems_eq_map, spread, String.toList_intercalate, Function.comp_def]

theorem toList_compact_obj (ms : List (String × Json)) : (compact (obj ms)).toList
    = '\x7b' :: (spread [] [] (ms.map fun m => memberText m.1 (compact m.2).toList) ++ ['\x7d']) := by
  simp [compact, compactMembers_eq_map, spread, String.toList_intercalate, Function.comp_def,
    ← toList_quote_append]

/-- **Every value is read back from its text without space.** -/
theorem readBack_compact (v : Json) : ReadBack v (compact v).toList := by
  induction v using induct with
  | null => exact readBack_null
  | bool b =>
    have hb := readBack_bool b
    cases b <;> exact hb
  | int k => exact readBack_int k
  | real d => exact readBack_real d
  | str s => exact readBack_str s
  | arr vs ih =>
    rw [toList_compact_arr]
    cases vs with
    | nil => exact readBack_arr_nil
    | cons v vs =>
      exact (readItems_spread isSpace_nil isSpace_nil (forall₂_map ih) (List.cons_ne_nil v vs)).arr
  | obj ms ih =>
    rw [toList_compact_obj]
    cases ms with
    | nil => exact readBack_obj_nil
    | cons m ms =>
      exact (readMembers_spread isSpace_nil isSpace_nil (forall₂_map fun m hm => ⟨_, rfl, ih m hm⟩)
        (List.cons_ne_nil m ms)).obj

/-! ## On several lines -/

/-- The start of a line on a level. -/
def lineStart (level : Nat) : List Char := '\n' :: List.replicate (2 * level) ' '

theorem isSpace_lineStart (level : Nat) : IsSpace (lineStart level) := by
  intro c hc
  rcases List.mem_cons.mp hc with rfl | hc
  · exact Or.inr (Or.inr (Or.inl rfl))
  · exact Or.inl (List.eq_of_mem_replicate hc)

/-- A line break after each comma is one in front of each text but the first. -/
theorem cons_intercalate (ts : List (List Char)) (hne : ts ≠ []) :
    '\n' :: [',', '\n'].intercalate ts = [','].intercalate (ts.map ('\n' :: ·)) := by
  induction ts with
  | nil => exact absurd rfl hne
  | cons t ts ih =>
    cases ts with
    | nil => simp
    | cons u ts =>
      rw [List.intercalate_cons_cons, List.map_cons, List.map_cons, List.intercalate_cons_cons,
        ← List.map_cons, ← ih (List.cons_ne_nil u ts)]
      simp

theorem block_nil (opening closing : String) (level : Nat) :
    block opening closing level [] = opening ++ closing := rfl

theorem toList_block (opening closing : String) (level : Nat) {texts : List String} (hne : texts ≠ []) :
    (block opening closing level texts).toList = opening.toList
      ++ (spread (lineStart (level + 1)) (lineStart level) (texts.map String.toList)
        ++ closing.toList) := by
  have hempty : texts.isEmpty = false := List.isEmpty_eq_false_iff.mpr hne
  have hlines : '\n' :: (",\n".intercalate (texts.map fun text => indent (level + 1) ++ text)).toList
      = [','].intercalate ((texts.map String.toList).map (lineStart (level + 1) ++ ·)) := by
    have hcomma : ",\n".toList = [',', '\n'] := rfl
    rw [String.toList_intercalate, hcomma, cons_intercalate _ (by simpa using hne)]
    simp [lineStart, indent, Function.comp_def]
  rw [block, hempty, if_neg Bool.false_ne_true, spread, ← hlines]
  simp [lineStart, indent]

theorem prettyItems_eq_map (level : Nat) (vs : List Json) :
    prettyItems level vs = vs.map (prettyAt level) := by
  induction vs with
  | nil => rfl
  | cons v vs ih => rw [prettyItems, ih, List.map_cons]

theorem prettyMembers_eq_map (level : Nat) (ms : List (String × Json)) :
    prettyMembers level ms = ms.map fun m => quote m.1 ++ ": " ++ prettyAt level m.2 := by
  induction ms with
  | nil => rfl
  | cons m ms ih => rw [prettyMembers, ih, List.map_cons]

/-- **Every value is read back from its text on several lines**, whatever the level. -/
theorem readBack_prettyAt (v : Json) (level : Nat) : ReadBack v (prettyAt level v).toList := by
  have hlines := isSpace_lineStart
  induction v using induct generalizing level with
  | null =>
    rw [prettyAt]
    exact readBack_null
  | bool b =>
    have hb := readBack_bool b
    rw [prettyAt]
    cases b <;> exact hb
  | int k =>
    rw [prettyAt]
    exact readBack_int k
  | real d =>
    rw [prettyAt]
    exact readBack_real d
  | str s =>
    rw [prettyAt]
    exact readBack_str s
  | arr vs ih =>
    rw [prettyAt, prettyItems_eq_map]
    cases vs with
    | nil =>
      rw [List.map_nil, block_nil]
      exact readBack_arr_nil
    | cons v vs =>
      rw [toList_block _ _ _ (by simp), List.map_map]
      exact (readItems_spread (hlines _) (hlines _) (forall₂_map fun v hv => ih v hv _)
        (List.cons_ne_nil v vs)).arr
  | obj ms ih =>
    rw [prettyAt, prettyMembers_eq_map]
    cases ms with
    | nil =>
      rw [List.map_nil, block_nil]
      exact readBack_obj_nil
    | cons m ms =>
      have hblank : IsSpace [' '] := List.forall_mem_singleton.mpr (Or.inl rfl)
      rw [toList_block _ _ _ (by simp), List.map_map]
      refine (readMembers_spread (hlines _) (hlines _) (forall₂_map fun m hm => ?_)
        (List.cons_ne_nil m ms)).obj
      exact ⟨_, by simp [← toList_quote_append], (ih m hm (level + 1)).space hblank⟩

/-! ## Texts of documents -/

/-- A text that is read back is the text of the value, also if space follows. -/
theorem parse?_of_readBack {text after : String} (h : ReadBack v text.toList)
    (hafter : IsSpace after.toList) : parse? (text ++ after) = some v := by
  have hread := h ((text ++ after).toList.length + 1) after.toList
    (by rw [String.toList_append, List.length_append]; omega)
    (List.append_nil after.toList ▸ .append hafter .nil)
  have hskip : skipSpace after.toList = [] := by
    rw [← List.append_nil after.toList, skipSpace_append hafter]
    rfl
  rw [parse?, String.toList_append]
  rw [String.toList_append] at hread
  simp only [hread, hskip]
  rfl

/-- **The text of a value without space is read as that value.** -/
theorem parse?_compact (v : Json) : parse? (compact v) = some v := by
  rw [← String.append_empty (s := compact v)]
  exact parse?_of_readBack (readBack_compact v) isSpace_nil

/-- **So is the text on several lines**, and space after it does not count. -/
theorem parse?_pretty_append (v : Json) {after : String} (h : IsSpace after.toList) :
    parse? (pretty v ++ after) = some v :=
  parse?_of_readBack (readBack_prettyAt v 0) h

theorem compact_injective : Function.Injective compact := fun v w h =>
  Option.some.inj ((parse?_compact v).symm.trans ((congrArg parse? h).trans (parse?_compact w)))

end Lifecycle.Json
