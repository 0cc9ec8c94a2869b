import Lifecycle.Manifest.Toml
import Lifecycle.Manifest.Load
import Lifecycle.Proofs.Text.PrefixCode
import Lifecycle.Proofs.Toml.Reader
import Mathlib

/-!
# Manifests are read back from their text

The lines of a canonical manifest are those of its components (`Component.lines`), which build a document of
one table for each component (**`ofLines?_lines`**), in which the components are found again
(**`ofToml_document`**).

**`canonical_text_is_read_back`**: so the text of a manifest is read as that manifest, unless a component
offends; then the first that does is reported.
-/

namespace Lifecycle

open Toml

/-! ## Lines -/

namespace Component

/-- The texts of the lines of a component. -/
def texts (c : Component) : List String :=
  [elementLine "component", assignmentLine "name" (quote c.name)]
    ++ (c.role.map fun r => assignmentLine "role" (quote r)).toList
    ++ [assignmentLine "requires" (quoteEach c.requires)]

/-- What the lines of a component say. -/
def lines (c : Component) : List Line :=
  [.element ⟨[], "component"⟩, .assignment ⟨[], "name"⟩ (.string c.name)]
    ++ (c.role.map fun r => Line.assignment ⟨[], "role"⟩ (.string r)).toList
    ++ [.assignment ⟨[], "requires"⟩ (.array (c.requires.map .string))]

/-- The entries of the table of a component. -/
def entries (c : Component) : Entries :=
  [("name", .string c.name), ("requires", .array (c.requires.map .string))]
    ++ (c.role.map fun r => ("role", Value.string r)).toList

theorem toToml_eq_join (c : Component) : c.toToml = String.join c.texts := by
  obtain ⟨name, role, requires⟩ := c
  cases role <;> simp [toToml, texts, String.join_cons, String.append_assoc]

theorem says_texts (c : Component) : List.Forall₂ Says c.texts c.lines := by
  have hheader : Says (elementLine "component") (.element ⟨[], "component"⟩) :=
    says_elementLine ⟨by simp, rfl⟩
  have hstring (key s : String) (hkey : IsBareKey key) :
      Says (assignmentLine key (quote s)) (.assignment ⟨[], key⟩ (.string s)) :=
    says_assignmentLine hkey (readAs_quote s)
  have hrequires : Says (assignmentLine "requires" (quoteEach c.requires))
      (.assignment ⟨[], "requires"⟩ (.array (c.requires.map .string))) :=
    says_assignmentLine ⟨by simp, rfl⟩ (readAs_quoteEach c.requires)
  have hname := hstring "name" c.name ⟨by simp, rfl⟩
  obtain ⟨name, role, requires⟩ := c
  cases role with
  | none => exact .cons hheader (.cons hname (.cons hrequires .nil))
  | some r =>
    have hrole := hstring "role" r ⟨by simp, rfl⟩
    exact .cons hheader (.cons hname (.cons hrole (.cons hrequires .nil)))

end Component

namespace Manifest

/-! ## Documents -/

/-- The document with some tables under the header of components, newest first. -/
def document : List Entries → Entries
  | [] => []
  | newest :: older => [("component", .tables (newest :: older))]

theorem add?_header (ts : List Entries) (current : List String) :
    Draft.add? ⟨document ts, current⟩ (.element ⟨[], "component"⟩)
      = some ⟨document ([] :: ts), ["component"]⟩ := by
  cases ts <;> rfl

/-- Under the header of components the newest table is meant. -/
theorem within_document (f : Entries → Option Entries) (es : Entries) (ts : List Entries) :
    (document (es :: ts)).within ["component"] f = (f es).map fun es => document (es :: ts) := by
  rw [document, Entries.within, Entries.alter, if_pos rfl]
  dsimp only
  rw [Entries.within]
  cases f es <;> rfl

theorem add?_assignment (es : Entries) (ts : List Entries) (key : String) (v : Value) :
    Draft.add? ⟨document (es :: ts), ["component"]⟩ (.assignment ⟨[], key⟩ v)
      = (Entries.assign [] key v es).map fun es => ⟨document (es :: ts), ["component"]⟩ := by
  rw [Draft.add?]
  dsimp only
  rw [within_document, Option.map_map]
  rfl

section Assign

variable {key k : String} (v w : Value) (es : Entries)

theorem assign_nil : Entries.assign [] key v [] = some [(key, v)] := rfl

theorem assign_of_lt (h : k < key) : Entries.assign [] key v ((k, w) :: es)
    = (Entries.assign [] key v es).map ((k, w) :: ·) := by
  rw [Entries.assign, Entries.alter, if_neg (ne_of_lt h), if_neg (lt_asymm h)]
  rfl

theorem assign_of_gt (h : key < k) :
    Entries.assign [] key v ((k, w) :: es) = some ((key, v) :: (k, w) :: es) := by
  rw [Entries.assign, Entries.alter, if_neg (ne_of_gt h), if_pos h]
  rfl

end Assign

/-- **The lines of a component add a table** with its entries, which stand in alphabetical order. -/
theorem foldlM_lines (c : Component) (ts : List Entries) (current : List String) :
    c.lines.foldlM Draft.add? ⟨document ts, current⟩
      = some ⟨document (c.entries :: ts), ["component"]⟩ := by
  have hname : "name" < "requires" ∧ "name" < "role" := by decide
  have hrequires : "requires" < "role" := by decide
  obtain ⟨name, role, requires⟩ := c
  cases role with
  | none =>
    simp only [Component.lines, Component.entries, Option.map_none, Option.toList_none, List.append_nil,
      List.cons_append, List.nil_append, List.foldlM_cons, List.foldlM_nil, add?_header, add?_assignment,
      assign_nil, assign_of_lt _ _ _ hname.1, Option.map_some, Option.bind_eq_bind, Option.bind_some,
      Option.pure_def]
  | some r =>
    simp only [Component.lines, Component.entries, Option.map_some, Option.toList_some,
      List.cons_append, List.nil_append, List.foldlM_cons, List.foldlM_nil, add?_header, add?_assignment,
      assign_nil, assign_of_lt _ _ _ hname.1, assign_of_lt _ _ _ hname.2, assign_of_gt _ _ _ hrequires,
      Option.bind_eq_bind, Option.bind_some, Option.pure_def]

/-- The lines of components add their tables in turn. -/
theorem foldlM_flatMap_lines (cs : List Component) (ts : List Entries) (current : List String) :
    ((cs.flatMap Component.lines).foldlM Draft.add? ⟨document ts, current⟩).map Draft.entries
      = some (document ((cs.map Component.entries).reverse ++ ts)) := by
  induction cs generalizing ts current with
  | nil => rfl
  | cons c cs ih =>
    rw [List.flatMap_cons, List.foldlM_append, foldlM_lines, Option.bind_eq_bind, Option.bind_some, ih,
      List.map_cons, List.reverse_cons, List.append_assoc]
    rfl

/-- **The document of a manifest** has one table for each component, newest first. -/
theorem ofLines?_lines (m : Manifest) : ofLines? (m.components.flatMap Component.lines)
    = some (document (m.components.map Component.entries).reverse) := by
  have hrun := foldlM_flatMap_lines m.components [] []
  rw [List.append_nil] at hrun
  exact hrun

/-- The text of a manifest is that of its lines. -/
theorem toToml_eq_join (m : Manifest) : m.toToml = String.join (m.components.flatMap Component.texts) := by
  rw [toToml, ← String.toList_inj]
  simp only [String.toList_join, List.flatMap_map, List.flatMap_assoc, Component.toToml_eq_join]

example : toToml ⟨[{ name := "a", role := some "\"é\"", requires := ["b", ""] }]⟩
    = "[[component]]\nname = \"a\"\nrole = \"\\\"é\\\"\"\nrequires = [\"b\", \"\"]\n" := rfl

theorem parse?_toToml (m : Manifest) :
    parse? m.toToml = some (document (m.components.map Component.entries).reverse) := by
  have hlines : List.Forall₂ Says (m.components.flatMap Component.texts)
      (m.components.flatMap Component.lines) := by
    induction m.components with
    | nil => exact .nil
    | cons c cs ih => exact List.rel_append (Component.says_texts c) ih
  rw [toToml_eq_join, parse?_of_says hlines, ofLines?_lines]

/-! ## Components of a document -/

theorem asStrings_map_string (ss : List String) : (Value.array (ss.map .string)).asStrings = .ok ss :=
  have hstring : ∀ s, (Value.string s).asString = .ok s := fun _ => rfl
  mapM_map_eq_pure hstring ss

/-- A component is found again in its table. -/
theorem ofEntries_entries (c : Component) : Component.ofEntries c.entries = .ok c := by
  obtain ⟨name, role, requires⟩ := c
  have hrequires : Component.Draft.note { name := some name } "requires" (.array (requires.map .string))
      = .ok { name := some name, requires } := by
    rw [Component.Draft.note, asStrings_map_string]
    rfl
  have hname : Component.Draft.note {} "name" (.string name) = .ok { name := some name } := rfl
  cases role with
  | none =>
    simp only [Component.ofEntries, Component.entries, Option.map_none, Option.toList_none,
      List.append_nil, List.foldlM_cons, List.foldlM_nil, hname, bind, Except.bind, hrequires]
    rfl
  | some r =>
    simp only [Component.ofEntries, Component.entries, Option.map_some, Option.toList_some,
      List.cons_append, List.nil_append, List.foldlM_cons, List.foldlM_nil, hname, bind, Except.bind, hrequires]
    rfl

/-- **The components of a document** are found again in order. -/
theorem ofToml_document (m : Manifest) :
    ofToml (document (m.components.map Component.entries).reverse) = .ok m := by
  have hread : ∀ c : Component, Component.ofToml (.table .header c.entries) = .ok c := ofEntries_entries
  have hcomponents : (m.components.map fun c => Value.table .header c.entries).mapM Component.ofToml
      = .ok m.components := mapM_map_eq_pure hread m.components
  cases htables : (m.components.map Component.entries).reverse with
  | nil =>
    obtain ⟨components⟩ := m
    obtain rfl : components = [] := List.map_eq_nil_iff.mp (List.reverse_eq_nil_iff.mp htables)
    rfl
  | cons newest older =>
    have hitems : (Value.tables (newest :: older)).asItems
        = .ok (m.components.map fun c => Value.table .header c.entries) := by
      have htables' : (newest :: older).reverse = m.components.map Component.entries := by
        rw [← htables, List.reverse_reverse]
      rw [Value.asItems, Value.items?, htables', List.map_map]
      rfl
    have hnote : note {} "component" (.tables (newest :: older)) = .ok m := by
      simp only [note, hitems, hcomponents, bind, Except.bind]
      rfl
    rw [document, ofToml, List.foldlM_cons]
    dsimp only
    rw [hnote]
    rfl

end Manifest

/-! ## Offences -/

namespace Component

/-- A component has a blank name or requires one. -/
def Offends (c : Component) : Prop :=
  Text.isBlank c.name = true ∨ ∃ name ∈ c.requires, Text.isBlank name = true

/-- What is reported of an offending component, the `position`-th of its manifest. -/
def offence (path : String) (position : Nat) (c : Component) : ManifestError :=
  if Text.isBlank c.name then .emptyName path position else .emptyRequirement path c.name

theorem validate_of_offends {c : Component} (h : c.Offends) (path : String) (position : Nat) :
    c.validate path position = .error (c.offence path position) := by
  unfold validate offence
  split_ifs with hname hrequires
  · rfl
  · rfl
  · exact absurd h (not_or.mpr ⟨hname, by simpa using hrequires⟩)

theorem validate_of_not_offends {c : Component} (h : ¬ c.Offends) (path : String) (position : Nat) :
    c.validate path position = .ok () := by
  obtain ⟨hname, hrequires⟩ := not_or.mp h
  rw [validate, if_neg hname, if_neg (by simpa using hrequires)]

end Component

namespace Manifest

/-- **Validation reports the first offence**, if there is one. -/
theorem validateFrom_cases (path : String) (position : Nat) (cs : List Component) :
    (validateFrom path position cs = .ok () ∧ ∀ c ∈ cs, ¬ c.Offends) ∨
      ∃ before c after, cs = before ++ c :: after ∧ (∀ b ∈ before, ¬ b.Offends) ∧ c.Offends ∧
        validateFrom path position cs = .error (c.offence path (position + before.length)) := by
  induction cs generalizing position with
  | nil => exact Or.inl ⟨rfl, by simp⟩
  | cons c cs ih =>
    by_cases hc : c.Offends
    · refine Or.inr ⟨[], c, cs, rfl, by simp, hc, ?_⟩
      rw [validateFrom, Component.validate_of_offends hc]
      rfl
    · have hstep : validateFrom path position (c :: cs) = validateFrom path (position + 1) cs := by
        rw [validateFrom, Component.validate_of_not_offends hc]
        rfl
      rw [hstep]
      rcases ih (position + 1) with ⟨hvalid, hnone⟩ | ⟨before, d, after, rfl, hbefore, hd, herror⟩
      · exact Or.inl ⟨hvalid, List.forall_mem_cons.mpr ⟨hc, hnone⟩⟩
      · refine Or.inr ⟨c :: before, d, after, rfl, List.forall_mem_cons.mpr ⟨hc, hbefore⟩, hd, ?_⟩
        rw [herror, List.length_cons, Nat.add_right_comm, Nat.add_assoc]

/-- The text of a manifest is read as that manifest, and then checked. -/
theorem parse_toToml (m : Manifest) (path : String) :
    parse m.toToml path = (m.validate path).map fun _ => m := by
  rw [parse, parse?_toToml]
  dsimp only
  rw [ofToml_document]
  dsimp only
  cases m.validate path <;> rfl

/-- **The text of a manifest is read as that manifest**, unless one of its components offends. Then the first
that does is reported: by its position, counted from 1, if its name is blank, and otherwise by its name. So
the text is always TOML of the right shape. -/
theorem canonical_text_is_read_back (m : Manifest) (path : String) :
    (parse m.toToml path = .ok m ∧ ∀ c ∈ m.components, ¬ c.Offends) ∨
      ∃ before c after, m.components = before ++ c :: after ∧ (∀ b ∈ before, ¬ b.Offends) ∧ c.Offends ∧
        parse m.toToml path = .error
          (if Text.isBlank c.name then .emptyName path (before.length + 1)
            else .emptyRequirement path c.name) := by
  rw [parse_toToml, validate]
  rcases validateFrom_cases path 1 m.components with
    ⟨hvalid, hnone⟩ | ⟨before, c, after, hsplit, hbefore, hc, herror⟩
  · exact Or.inl ⟨by rw [hvalid]; rfl, hnone⟩
  · refine Or.inr ⟨before, c, after, hsplit, hbefore, hc, ?_⟩
    rw [herror, Nat.add_comm 1]
    rfl

end Manifest

end Lifecycle
