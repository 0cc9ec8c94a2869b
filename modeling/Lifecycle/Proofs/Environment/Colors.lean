import Lifecycle.Environment.Colors
import Lifecycle.Proofs.Environment.Basic
import Mathlib

/-!
# Which variables count for colours

The colour variables are taken out of an environment whatever the case of their names, so a variable
counts under every spelling of its name, and two spellings are one too many
(`ofEnvironment_eq_ok_iff`).

**`ofEnvironment_eq_standard_iff`**: exactly if none of the four is set under another spelling, they are
taken without fault and are what the environment holds under their standard names.
-/

namespace Lifecycle

/-- The four variables. -/
inductive ColorVariable where
  | noColor
  | forceColor
  | clicolor
  | ci
  deriving Repr, DecidableEq

namespace ColorVariable

/-- The standard name. -/
def name : ColorVariable → String
  | noColor => "NO_COLOR"
  | forceColor => "FORCE_COLOR"
  | clicolor => "CLICOLOR"
  | ci => "CI"

/-- The name in lower case. -/
def key : ColorVariable → String
  | noColor => "no_color"
  | forceColor => "force_color"
  | clicolor => "clicolor"
  | ci => "ci"

/-- A name in lower case. -/
def lower (name : String) : String := String.ofList (name.toList.map Char.toLower)

/-- A name is the standard one but for the case of its letters. -/
def IsSpelling (v : ColorVariable) (name : String) : Prop := lower name = lower v.name

instance (v : ColorVariable) : DecidablePred v.IsSpelling := fun name =>
  inferInstanceAs (Decidable (lower name = lower v.name))

theorem lower_name (v : ColorVariable) : lower v.name = v.key := by
  cases v <;> rfl

theorem isSpelling_name (v : ColorVariable) : v.IsSpelling v.name := rfl

theorem isSpelling_iff {v : ColorVariable} {name : String} : v.IsSpelling name ↔ lower name = v.key := by
  rw [IsSpelling, lower_name]

/-- No name is a spelling of two variables. -/
theorem IsSpelling.unique {v w : ColorVariable} {name : String} (hv : v.IsSpelling name)
    (hw : w.IsSpelling name) : v = w := by
  have hkey : v.key = w.key := (isSpelling_iff.mp hv).symm.trans (isSpelling_iff.mp hw)
  cases v <;> cases w <;> simp_all [key]

end ColorVariable

namespace ColorVariables

/-- The value of a variable. -/
def get? (c : ColorVariables) : ColorVariable → Option String
  | .noColor => c.noColor
  | .forceColor => c.forceColor
  | .clicolor => c.clicolor
  | .ci => c.ci

/-- Set a variable. -/
def set (c : ColorVariables) (v : ColorVariable) (value : String) : ColorVariables :=
  match v with
  | .noColor => { c with noColor := some value }
  | .forceColor => { c with forceColor := some value }
  | .clicolor => { c with clicolor := some value }
  | .ci => { c with ci := some value }

theorem ext_get? {c d : ColorVariables} (h : ∀ v, c.get? v = d.get? v) : c = d := by
  obtain ⟨noColor, forceColor, clicolor, ci⟩ := c
  obtain rfl : noColor = d.noColor := h .noColor
  obtain rfl : forceColor = d.forceColor := h .forceColor
  obtain rfl : clicolor = d.clicolor := h .clicolor
  obtain rfl : ci = d.ci := h .ci
  rfl

theorem get?_set_self (c : ColorVariables) (v : ColorVariable) (value : String) :
    (c.set v value).get? v = some value := by
  cases v <;> rfl

theorem get?_set_of_ne (c : ColorVariables) {v w : ColorVariable} (h : w ≠ v) (value : String) :
    (c.set v value).get? w = c.get? w := by
  cases v <;> cases w <;> first | rfl | exact absurd rfl h

/-! ## Noting one variable -/

/-- A variable that was noted under one spelling is not noted under another. -/
theorem note_of_isSpelling (c : ColorVariables) {v : ColorVariable} {name : String}
    (h : v.IsSpelling name) (value : String) :
    c.note name value = if (c.get? v).isSome then .error ⟨v.key⟩ else .ok (c.set v value) := by
  have hlower : String.ofList (name.toList.map Char.toLower) = v.key :=
    ColorVariable.isSpelling_iff.mp h
  unfold note
  rw [hlower]
  cases v <;> rfl

theorem note_of_not_isSpelling (c : ColorVariables) {name : String}
    (h : ∀ v : ColorVariable, ¬ v.IsSpelling name) (value : String) : c.note name value = .ok c := by
  have hlower (v : ColorVariable) : String.ofList (name.toList.map Char.toLower) ≠ v.key :=
    fun hv => h v (ColorVariable.isSpelling_iff.mpr hv)
  unfold note
  split
  case h_1 hkey => exact absurd hkey (hlower .noColor)
  case h_2 hkey => exact absurd hkey (hlower .forceColor)
  case h_3 hkey => exact absurd hkey (hlower .clicolor)
  case h_4 hkey => exact absurd hkey (hlower .ci)
  case h_5 => rfl

/-! ## Noting all variables -/

/-- The values that some bindings give a variable under any spelling. -/
def valuesUnder (v : ColorVariable) (bindings : List (String × String)) : List String :=
  (bindings.filter fun b => v.IsSpelling b.1).map Prod.snd

theorem valuesUnder_cons_of_isSpelling {v : ColorVariable} {b : String × String}
    (h : v.IsSpelling b.1) (rest : List (String × String)) :
    valuesUnder v (b :: rest) = b.2 :: valuesUnder v rest := by
  simp [valuesUnder, h]

theorem valuesUnder_cons_of_not_isSpelling {v : ColorVariable} {b : String × String}
    (h : ¬ v.IsSpelling b.1) (rest : List (String × String)) :
    valuesUnder v (b :: rest) = valuesUnder v rest := by
  simp [valuesUnder, h]

theorem toList_injective {α : Type} {a b : Option α} (h : a.toList = b.toList) : a = b := by
  cases a <;> cases b <;> simp_all

/-- From what was noted so far, the bindings are noted without fault iff each variable comes to at most
one value. -/
theorem foldlM_note_eq_ok_iff (bindings : List (String × String)) (c d : ColorVariables) :
    bindings.foldlM (fun c b => c.note b.1 b.2) c = .ok d ↔
      ∀ v, (c.get? v).toList ++ valuesUnder v bindings = (d.get? v).toList := by
  induction bindings generalizing c with
  | nil =>
    constructor
    · intro h v
      obtain rfl := Except.ok.inj h
      exact List.append_nil _
    · intro h
      have hsame : c = d := ext_get? fun v => toList_injective ((List.append_nil _).symm.trans (h v))
      rw [hsame]
      rfl
  | cons b rest ih =>
    rw [List.foldlM_cons]
    by_cases hspelling : ∃ v : ColorVariable, v.IsSpelling b.1
    · obtain ⟨v, hv⟩ := hspelling
      rw [note_of_isSpelling c hv]
      cases hget : c.get? v with
      | some value =>
        -- a second spelling: a fault on one side, two values on the other
        refine iff_of_false (fun h => by cases h) fun h => ?_
        have hlength := congrArg List.length (h v)
        rw [hget, valuesUnder_cons_of_isSpelling hv] at hlength
        cases hd : d.get? v <;> simp [hd] at hlength
      | none =>
        refine (ih (c.set v b.2)).trans (forall_congr' fun w => ?_)
        by_cases hw : w = v
        · subst hw
          rw [get?_set_self, hget, valuesUnder_cons_of_isSpelling hv]
          rfl
        · have hother : ¬ w.IsSpelling b.1 := fun h => hw (h.unique hv)
          rw [get?_set_of_ne c hw, valuesUnder_cons_of_not_isSpelling hother]
    · have hnone : ∀ v : ColorVariable, ¬ v.IsSpelling b.1 := fun v hv => hspelling ⟨v, hv⟩
      rw [note_of_not_isSpelling c hnone]
      refine (ih c).trans (forall_congr' fun v => ?_)
      rw [valuesUnder_cons_of_not_isSpelling (hnone v)]

/-- **What the colour variables of an environment are**: each has the value that it is given under any
spelling, of which there must not be two. -/
theorem ofEnvironment_eq_ok_iff {env : Environment} {c : ColorVariables} :
    ofEnvironment env = .ok c ↔ ∀ v, valuesUnder v env.bindings = (c.get? v).toList := by
  refine (foldlM_note_eq_ok_iff env.bindings {} c).trans (forall_congr' fun v => ?_)
  have hempty : ({} : ColorVariables).get? v = none := by cases v <;> rfl
  rw [hempty, Option.toList_none, List.nil_append]

/-! ## Standard names -/

/-- What an environment holds under the standard names. -/
def standard (env : Environment) : ColorVariables where
  noColor := env.get? "NO_COLOR"
  forceColor := env.get? "FORCE_COLOR"
  clicolor := env.get? "CLICOLOR"
  ci := env.get? "CI"

theorem get?_standard (env : Environment) (v : ColorVariable) :
    (standard env).get? v = env.get? v.name := by
  cases v <;> rfl

/-- No variable is set under a spelling that is not standard. -/
def StandardNames (env : Environment) : Prop :=
  ∀ b ∈ env.bindings, ∀ v : ColorVariable, v.IsSpelling b.1 → b.1 = v.name

/-- A variable has the value under its standard name alone iff no other spelling of it is set. -/
theorem valuesUnder_eq_get?_iff {env : Environment} (hdistinct : env.Distinct) (v : ColorVariable) :
    valuesUnder v env.bindings = (env.get? v.name).toList ↔
      ∀ b ∈ env.bindings, v.IsSpelling b.1 → b.1 = v.name := by
  constructor
  · intro h b hb hspelling
    have hmem : b ∈ env.bindings.filter fun b => v.IsSpelling b.1 :=
      List.mem_filter.mpr ⟨hb, decide_eq_true hspelling⟩
    cases hget : env.get? v.name with
    | none =>
      rw [hget, valuesUnder, Option.toList_none, List.map_eq_nil_iff] at h
      rw [h] at hmem
      cases hmem
    | some value =>
      have hstandard : (v.name, value) ∈ env.bindings.filter fun b => v.IsSpelling b.1 :=
        List.mem_filter.mpr ⟨Environment.mem_of_get? hget, decide_eq_true v.isSpelling_name⟩
      rw [hget, valuesUnder, Option.toList_some, List.map_eq_singleton_iff] at h
      obtain ⟨only, honly, -⟩ := h
      rw [honly, List.mem_singleton] at hmem hstandard
      rw [hmem, ← hstandard]
  · intro h
    have hfilter : env.bindings.filter (fun b => v.IsSpelling b.1)
        = env.bindings.filter fun b => b.1 = v.name := by
      refine List.filter_congr fun b hb => decide_eq_decide.mpr ⟨h b hb, fun hname => ?_⟩
      rw [hname]
      exact v.isSpelling_name
    rw [valuesUnder, hfilter, hdistinct.values_eq]

/-- Under standard names the variables are taken without fault. -/
theorem StandardNames.ofEnvironment_eq {env : Environment} (h : StandardNames env)
    (hdistinct : env.Distinct) : ofEnvironment env = .ok (standard env) := by
  refine ofEnvironment_eq_ok_iff.mpr fun v => ?_
  rw [get?_standard]
  exact (valuesUnder_eq_get?_iff hdistinct v).mpr fun b hb => h b hb v

/-- **Only the standard names count iff no other spelling of them is set.** Then nothing can go wrong, and
environments that agree on the four names give the same. -/
theorem ofEnvironment_eq_standard_iff (env : Environment) (hdistinct : env.Distinct) :
    ofEnvironment env = .ok (standard env) ↔ StandardNames env := by
  rw [ofEnvironment_eq_ok_iff]
  constructor
  · intro h b hb v hspelling
    have hvalues := h v
    rw [get?_standard] at hvalues
    exact (valuesUnder_eq_get?_iff hdistinct v).mp hvalues b hb hspelling
  · intro h v
    rw [get?_standard]
    exact (valuesUnder_eq_get?_iff hdistinct v).mpr fun b hb => h b hb v

/-- A name that only starts like a standard one is another name. -/
theorem ci_is_taken :
    Environment.Distinct ⟨[("CI_NAME", "drone"), ("CI", "true")]⟩ ∧
      ofEnvironment ⟨[("CI_NAME", "drone"), ("CI", "true")]⟩ = .ok { ci := some "true" } := by
  have hdistinct : Environment.Distinct ⟨[("CI_NAME", "drone"), ("CI", "true")]⟩ := by
    simp [Environment.Distinct]
  have hnames : StandardNames ⟨[("CI_NAME", "drone"), ("CI", "true")]⟩ := by
    intro b hb v hspelling
    rcases List.mem_pair.mp hb with rfl | rfl <;> cases v <;>
      first | rfl | exact absurd hspelling (by decide)
  exact ⟨hdistinct, (ofEnvironment_eq_standard_iff _ hdistinct).mpr hnames⟩

/-- Other spellings count as well: a second one is a fault, and one that stands alone is taken for the
variable. In both cases the environment agrees on the standard names with one without that spelling. -/
theorem other_spellings_count :
    (standard ⟨[("CI", "true"), ("ci", "1")]⟩ = standard ⟨[("CI", "true")]⟩ ∧
        ofEnvironment ⟨[("CI", "true"), ("ci", "1")]⟩ = .error ⟨"ci"⟩ ∧
        ofEnvironment ⟨[("CI", "true")]⟩ = .ok { ci := some "true" }) ∧
      standard ⟨[("ci", "1")]⟩ = standard ⟨[]⟩ ∧
        ofEnvironment ⟨[("ci", "1")]⟩ = .ok { ci := some "1" } ∧ ofEnvironment ⟨[]⟩ = .ok {} :=
  ⟨⟨rfl, rfl, rfl⟩, rfl, rfl, rfl⟩

end ColorVariables

end Lifecycle
