import Lifecycle.CommandLine.Option
import Lifecycle.Setting.Decode
import Lifecycle.Setting.Title
import Mathlib

/-!
# A text names one value at most

The values of a setting are read in three ways: by name or alias without regard to case
(`Choice.parse`), by name or alias as it is written (`Choice.ofName?`, which options of the command line
go through), and in documents by the name made from the title (`Json.asChoice`).

* Names and aliases are written in small Latin letters, and these fold to themselves
  (`Text.caseFold_of_isSmall`). So **names that fold alike are the same** (`Text.caseFold_inj`), whatever
  other texts fold to them.
* `LawfulChoice`: all values are tried, and no name is listed twice. So a text names one value at most
  (`Choice.Calls.unique`), and the values may be tried in any order (`Choice.find?_isCalled`).
* **`settings_are_read_alike`**: `Choice.parse` reads exactly the texts that name a value, and what is read
  in one of the stricter ways is read in the laxer ones too, as the same value.
-/

namespace Lifecycle

namespace Text

/-! ## Folding small letters -/

/-- A text of small Latin letters. -/
def IsSmall (s : String) : Prop := ∀ c ∈ s.toList, c.isLower = true

/-- No run of letters that fold to others holds a small Latin letter. -/
theorem foldRuns_off : ∀ r ∈ foldRuns, r.last < 97 ∨ 122 < r.first := by decide +kernel

/-- No small Latin letter folds to several. -/
theorem foldExpansions_off : ∀ e ∈ foldExpansions, 122 < e.1 := by decide +kernel

theorem FoldRun.contains_eq_false {r : FoldRun} {n : Nat} (h : r.last < n ∨ n < r.first) :
    r.contains n = false := by
  rw [FoldRun.contains, Bool.and_eq_false_imp]
  intro hin
  simp only [Bool.and_eq_true, decide_eq_true_eq] at hin
  omega

/-- A small Latin letter folds to itself. -/
theorem foldCode_of_isLower {c : Char} (h : c.isLower = true) : foldCode c.toNat = [c.toNat] := by
  have hrange : 97 ≤ c.toNat ∧ c.toNat ≤ 122 := by
    simpa [Char.isLower, UInt32.le_iff_toNat_le] using h
  have hrun : foldRuns.find? (·.contains c.toNat) = none := by
    refine List.find?_eq_none.mpr fun r hr => Bool.eq_false_iff.mp (FoldRun.contains_eq_false ?_)
    have hoff := foldRuns_off r hr
    omega
  have hexpansion : foldExpansions.lookup c.toNat = none := by
    refine List.lookup_eq_none_iff.mpr fun e he => ?_
    have hoff := foldExpansions_off e he
    rw [bne_iff_ne]
    omega
  rw [foldCode, hrun]
  simp only [hexpansion, Option.getD_none]

theorem caseFold_of_isSmall {s : String} (h : IsSmall s) : caseFold s = s.toList.map Char.toNat := by
  rw [caseFold, List.map_eq_flatMap]
  exact List.flatMap_congr fun c hc => foldCode_of_isLower (h c hc)

/-- **Texts of small letters that fold alike are the same.** -/
theorem caseFold_inj {s t : String} (hs : IsSmall s) (ht : IsSmall t) :
    caseFold s = caseFold t ↔ s = t := by
  rw [caseFold_of_isSmall hs, caseFold_of_isSmall ht, ← String.toList_inj]
  exact (List.map_injective_iff.mpr fun _ _ => Char.toNat_inj.mp).eq_iff

end Text

/-- The search for the only value with a property finds it. -/
theorem find?_eq_some_iff_of_unique {α : Type} {p : α → Bool} {l : List α} {a : α} (hmem : a ∈ l)
    (hunique : ∀ b, p b = true → p a = true → b = a) : l.find? p = some a ↔ p a = true := by
  refine ⟨List.find?_some, fun ha => ?_⟩
  obtain ⟨b, hb⟩ := Option.isSome_iff_exists.mp (List.find?_isSome.mpr ⟨a, hmem, ha⟩)
  rw [hb, hunique b (List.find?_some hb) ha]

namespace Choice

/-! ## Settings whose names tell the values apart -/

/-- A setting that lists all its values, and no name for two of them. -/
class LawfulChoice (α : Type) [Choice α] : Prop where
  mem_variants : ∀ a : α, a ∈ (variants : List α)
  eq_of_mem : ∀ a ∈ (variants : List α), ∀ b ∈ (variants : List α), ∀ n ∈ names a, n ∈ names b → a = b
  isSmall : ∀ a ∈ (variants : List α), ∀ n ∈ names a, Text.IsSmall n

instance : LawfulChoice Level where
  mem_variants := fun a => by cases a <;> decide
  eq_of_mem := by decide
  isSmall := by simp [variants, names, Text.IsSmall]

instance : LawfulChoice LogFormat where
  mem_variants := fun a => by cases a <;> decide
  eq_of_mem := by decide
  isSmall := by simp [variants, names, Text.IsSmall]

instance : LawfulChoice LogOutput where
  mem_variants := fun a => by cases a <;> decide
  eq_of_mem := by decide
  isSmall := by simp [variants, names, Text.IsSmall]

instance : LawfulChoice ColorIntent where
  mem_variants := fun a => by cases a <;> decide
  eq_of_mem := by decide
  isSmall := by simp [variants, names, Text.IsSmall]

instance : LawfulChoice OutputFormat where
  mem_variants := fun a => by cases a <;> decide
  eq_of_mem := by decide
  isSmall := by simp [variants, names, Text.IsSmall]

/-- A text is the name of a value or an alias of it, but for its case. -/
def Calls {α : Type} [Choice α] (s : String) (a : α) : Prop :=
  ∃ n ∈ names a, Text.caseFold n = Text.caseFold s

variable {α : Type} [Choice α] {a b : α} {s n : String}

theorem isCalled_iff : isCalled a s = true ↔ Calls s a := by
  simp [isCalled, Calls]

theorem calls_of_mem (h : s ∈ names a) : Calls s a := ⟨s, h, rfl⟩

section Lawful

variable [LawfulChoice α]

theorem isSmall_of_mem (h : n ∈ names a) : Text.IsSmall n :=
  LawfulChoice.isSmall a (LawfulChoice.mem_variants a) n h

/-- No name is that of two values. -/
theorem eq_of_mem_names (ha : n ∈ names a) (hb : n ∈ names b) : a = b :=
  LawfulChoice.eq_of_mem a (LawfulChoice.mem_variants a) b (LawfulChoice.mem_variants b) n ha hb

/-- **A text names one value at most**, also one that folding makes longer or shorter. -/
theorem Calls.unique (ha : Calls s a) (hb : Calls s b) : a = b := by
  obtain ⟨n, hn, hfold⟩ := ha
  obtain ⟨m, hm, hfold'⟩ := hb
  obtain rfl : n = m :=
    (Text.caseFold_inj (isSmall_of_mem hn) (isSmall_of_mem hm)).mp (hfold.trans hfold'.symm)
  exact eq_of_mem_names hn hm

/-! ## The three readers -/

/-- Values that are tried in any order: the one that a text names is found. -/
theorem find?_isCalled {order : List α} (hmem : a ∈ order) :
    order.find? (fun v => isCalled v s) = some a ↔ Calls s a := by
  rw [← isCalled_iff]
  exact find?_eq_some_iff_of_unique hmem fun b hb ha =>
    (isCalled_iff.mp hb).unique (isCalled_iff.mp ha)

theorem find?_isCalled_of_perm {order : List α} (h : order.Perm variants) (s : String) :
    order.find? (fun v => isCalled v s) = variants.find? fun v => isCalled v s := by
  refine Option.ext fun a => ?_
  have hmem : a ∈ (variants : List α) := LawfulChoice.mem_variants a
  rw [find?_isCalled (h.mem_iff.mpr hmem), find?_isCalled hmem]

/-- **A text is read without regard to case iff it names the value.** -/
theorem parse_eq_ok_iff : parse s = .ok a ↔ Calls s a := by
  rw [← find?_isCalled (LawfulChoice.mem_variants a), parse]
  cases (variants : List α).find? fun v => isCalled v s <;> simp

/-- **A text that names no value is reported as it is.** -/
theorem parse_eq_error_iff {e : ParseError} :
    parse (α := α) s = .error e ↔ (∀ a : α, ¬ Calls s a) ∧ e = ⟨s, "invalid " ++ kind α⟩ := by
  constructor
  · intro h
    refine ⟨fun a ha => ?_, ?_⟩
    · cases (parse_eq_ok_iff.mpr ha).symm.trans h
    · rw [parse] at h
      split at h
      · cases h
      · exact (Except.error.inj h).symm
  · rintro ⟨hnone, rfl⟩
    have hfind : (variants : List α).find? (fun v => isCalled v s) = none :=
      List.find?_eq_none.mpr fun v _ hv => hnone v (isCalled_iff.mp hv)
    rw [parse, hfind]

/-- A text is read as it is written iff it is the name of the value or an alias. -/
theorem ofName?_eq_some_iff : ofName? s = some a ↔ s ∈ names a := by
  rw [ofName?, find?_eq_some_iff_of_unique (LawfulChoice.mem_variants a) fun b hb ha =>
    eq_of_mem_names (List.contains_iff_mem.mp hb) (List.contains_iff_mem.mp ha)]
  exact List.contains_iff_mem

/-- The text of an option is read iff it is the name of a value or an alias. -/
theorem readChoice_eq_ok_iff {o : SettingOption} {wrap : α → SettingValue} {v : SettingValue} :
    o.readChoice wrap s = .ok v ↔ ∃ a : α, v = wrap a ∧ s ∈ names a := by
  rw [SettingOption.readChoice]
  constructor
  · intro h
    split at h
    case h_1 a hname =>
      exact ⟨a, (Except.ok.inj h).symm, ofName?_eq_some_iff.mp hname⟩
    case h_2 => cases h
  · rintro ⟨a, rfl, hs⟩
    rw [ofName?_eq_some_iff.mpr hs]

end Lawful

/-! ## Documents -/

/-- A setting whose first name for a value is the one that is made from its title. -/
class LawfulTitled (α : Type) [Choice α] [Titled α] : Prop where
  head?_names : ∀ a : α, (names a).head? = some (Titled.documentName a)

instance : LawfulTitled LogFormat where
  head?_names := fun a => by cases a <;> rfl

instance : LawfulTitled LogOutput where
  head?_names := fun a => by cases a <;> rfl

instance : LawfulTitled ColorIntent where
  head?_names := fun a => by cases a <;> rfl

instance : LawfulTitled OutputFormat where
  head?_names := fun a => by cases a <;> rfl

section Documents

variable [Titled α] [LawfulTitled α]

theorem name_eq (a : α) : name a = Titled.documentName a := by
  rw [name, List.headD_eq_head?_getD, LawfulTitled.head?_names]
  rfl

theorem documentName_mem (a : α) : Titled.documentName a ∈ names a :=
  List.mem_of_mem_head? (LawfulTitled.head?_names a)

/-- **A text in a document is read iff it is the name made from the title of the value.** -/
theorem asChoice_str_eq_ok_iff [LawfulChoice α] :
    Json.asChoice α (.str s) = .ok a ↔ s = Titled.documentName a := by
  have hread : Json.asNamed α s = .ok a ↔
      (variants : List α).find? (fun b => name b == s) = some a := by
    rw [Json.asNamed]
    cases (variants : List α).find? fun b => name b == s <;> simp
  have hfind : (variants : List α).find? (fun b => name b == s) = some a ↔ (name a == s) = true := by
    refine find?_eq_some_iff_of_unique (LawfulChoice.mem_variants a) fun b hb ha => ?_
    rw [name_eq, beq_iff_eq] at hb ha
    exact eq_of_mem_names (hb ▸ documentName_mem b) (ha ▸ documentName_mem a)
  refine (hread.trans hfind).trans ?_
  rw [name_eq, beq_iff_eq, eq_comm]

end Documents

/-! ## All readers of all settings -/

/-- **What a text names**, and what reading it comes to. -/
structure Readable (α : Type) [Choice α] : Prop where
  /-- Without regard to case a text is read iff it names the value. -/
  parse_ok : ∀ (s : String) (a : α), parse s = .ok a ↔ Calls s a
  /-- It names one value at most. -/
  unique : ∀ (s : String) (a b : α), Calls s a → Calls s b → a = b
  /-- The values may be tried in any order. -/
  any_order : ∀ (s : String) (order : List α), order.Perm variants →
    order.find? (fun v => isCalled v s) = variants.find? fun v => isCalled v s
  /-- A text that names no value is reported as it is. -/
  parse_error : ∀ (s : String) (e : ParseError),
    parse (α := α) s = .error e ↔ (∀ a : α, ¬ Calls s a) ∧ e = ⟨s, "invalid " ++ kind α⟩
  /-- As it is written a text is read iff it is the name of the value or an alias. -/
  written : ∀ (s : String) (a : α), ofName? s = some a ↔ s ∈ names a
  /-- What is read as it is written is read without regard to case. -/
  parse_of_written : ∀ (s : String) (a : α), ofName? s = some a → parse s = .ok a

/-- **An option of the command line and a document** read no more than is read without regard to case, and
the same values. -/
structure ReadAlike (α : Type) [Choice α] [Titled α] (o : SettingOption) (wrap : α → SettingValue) :
    Prop where
  /-- The text of the option is read iff it is the name of a value or an alias. -/
  option : ∀ (s : String) (v : SettingValue), o.read s = .ok v ↔ ∃ a : α, v = wrap a ∧ s ∈ names a
  /-- What the option takes is read without regard to case. -/
  parse_of_option : ∀ (s : String) (v : SettingValue), o.read s = .ok v →
    ∃ a : α, v = wrap a ∧ parse s = .ok a
  /-- A text in a document is read iff it is the name made from the title of the value. -/
  document : ∀ (s : String) (a : α), Json.asChoice α (.str s) = .ok a ↔ s = Titled.documentName a
  /-- What a document may hold the option takes. -/
  option_of_document : ∀ (s : String) (a : α), Json.asChoice α (.str s) = .ok a → o.read s = .ok (wrap a)
  /-- What a document may hold is read without regard to case. -/
  parse_of_document : ∀ (s : String) (a : α), Json.asChoice α (.str s) = .ok a → parse s = .ok a

theorem readable [LawfulChoice α] : Readable α where
  parse_ok := fun _ _ => parse_eq_ok_iff
  unique := fun _ _ _ => Calls.unique
  any_order := fun s _ h => find?_isCalled_of_perm h s
  parse_error := fun _ _ => parse_eq_error_iff
  written := fun _ _ => ofName?_eq_some_iff
  parse_of_written := fun _ _ h => parse_eq_ok_iff.mpr (calls_of_mem (ofName?_eq_some_iff.mp h))

theorem readAlike [Titled α] [LawfulChoice α] [LawfulTitled α] {o : SettingOption}
    {wrap : α → SettingValue} (ho : ∀ s, o.read s = o.readChoice wrap s) : ReadAlike α o wrap where
  option := fun s _ => by rw [ho, readChoice_eq_ok_iff]
  parse_of_option := fun s v h => by
    rw [ho, readChoice_eq_ok_iff] at h
    obtain ⟨a, hv, hs⟩ := h
    exact ⟨a, hv, parse_eq_ok_iff.mpr (calls_of_mem hs)⟩
  document := fun _ _ => asChoice_str_eq_ok_iff
  option_of_document := fun s a h => by
    obtain rfl := asChoice_str_eq_ok_iff.mp h
    rw [ho, readChoice_eq_ok_iff]
    exact ⟨a, rfl, documentName_mem a⟩
  parse_of_document := fun s a h => by
    obtain rfl := asChoice_str_eq_ok_iff.mp h
    exact parse_eq_ok_iff.mpr (calls_of_mem (documentName_mem a))

/-- **The settings are read alike everywhere.** A text is read without regard to case iff it folds to what
the name or an alias of the value folds to. That value is the only one, whatever the order of search, and
any other text is reported unchanged. Names and aliases as they are written are the texts that an option
takes, and the names made from titles are those that a document may hold: each is read in the laxer ways
too, as the same value. -/
theorem settings_are_read_alike :
    (Readable Level ∧ Readable LogFormat ∧ Readable LogOutput ∧ Readable ColorIntent ∧
      Readable OutputFormat) ∧
    ReadAlike LogFormat .logFormat .logFormat ∧ ReadAlike LogOutput .logOutput .logOutput ∧
    ReadAlike ColorIntent .color .color ∧ ReadAlike OutputFormat .output .output :=
  ⟨⟨readable, readable, readable, readable, readable⟩, readAlike fun _ => rfl, readAlike fun _ => rfl,
    readAlike fun _ => rfl, readAlike fun _ => rfl⟩

-- A long s folds to an s and a ligature to its two letters, but only texts of small letters are names.
example : parse "ſtderr" = .ok LogOutput.stderr ∧ parse "oﬀ" = .ok ColorIntent.never ∧
    (ofName? "oﬀ" : Option ColorIntent) = none := by decide +kernel

end Choice

end Lifecycle
