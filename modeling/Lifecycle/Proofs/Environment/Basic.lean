import Lifecycle.Environment.Basic
import Mathlib

/-!
# Environments with distinct names

Variables are set at most once, so **names that are distinct stay so** (`Distinct.setEachUnset`), and to
set variables that are set already changes nothing (`setEachUnset_of_contains`). Where names are distinct,
the bindings of a name are its value (`Distinct.values_eq`).
-/

namespace Lifecycle.Environment

variable {env : Environment} {name value : String}

/-- No name is bound twice. -/
def Distinct (env : Environment) : Prop := (env.bindings.map Prod.fst).Nodup

theorem contains_eq_true_iff : env.contains name = true ↔ ∃ value, env.get? name = some value :=
  Option.isSome_iff_exists

theorem contains_eq_false_iff : env.contains name = false ↔ env.get? name = none := by
  rw [contains, Option.isSome_eq_false_iff, Option.isNone_iff_eq_none]

/-- A name has no value iff it is not there. -/
theorem lookup_eq_none_iff {l : List (String × String)} :
    l.lookup name = none ↔ name ∉ l.map Prod.fst := by
  rw [List.lookup_eq_none_iff, List.mem_map]
  constructor
  · rintro h ⟨b, hb, rfl⟩
    simpa using h b hb
  · intro h b hb
    exact bne_iff_ne.mpr fun hname => h ⟨b, hb, hname.symm⟩

theorem mem_of_get? (h : env.get? name = some value) : (name, value) ∈ env.bindings := by
  obtain ⟨before, after, hbindings, -⟩ := List.lookup_eq_some_iff.mp h
  rw [hbindings]
  exact List.mem_append_right _ List.mem_cons_self

/-! ## Setting what is set -/

theorem setIfUnset_of_contains (h : env.contains name = true) : env.setIfUnset name value = env := by
  rw [setIfUnset, if_pos h]

/-- To set variables that are set already changes nothing. -/
theorem setEachUnset_of_contains {assignments : List (String × String)}
    (h : ∀ a ∈ assignments, env.contains a.1 = true) : env.setEachUnset assignments = env := by
  induction assignments with
  | nil => rfl
  | cons a rest ih =>
    have hstep : env.setEachUnset (a :: rest) = (env.setIfUnset a.1 a.2).setEachUnset rest := rfl
    rw [hstep, setIfUnset_of_contains (h a List.mem_cons_self)]
    exact ih fun b hb => h b (List.mem_cons_of_mem a hb)

/-- What is assigned is set. -/
theorem contains_setEachUnset_of_mem {assignments : List (String × String)}
    (h : (name, value) ∈ assignments) : (env.setEachUnset assignments).contains name = true := by
  rw [contains, get?_setEachUnset, Option.isSome_or, Bool.or_eq_true]
  right
  rw [Option.isSome_iff_ne_none, ne_eq, lookup_eq_none_iff, not_not]
  exact List.mem_map_of_mem h

/-- Nothing is bound but what was bound before or is assigned. -/
theorem mem_setEachUnset {assignments : List (String × String)} {b : String × String}
    (h : b ∈ (env.setEachUnset assignments).bindings) : b ∈ env.bindings ∨ b ∈ assignments := by
  induction assignments generalizing env with
  | nil => exact Or.inl h
  | cons a rest ih =>
    have hstep : b ∈ (env.setIfUnset a.1 a.2).bindings ∨ b ∈ rest := ih h
    by_cases hset : env.contains a.1 = true
    · rw [setIfUnset_of_contains hset] at hstep
      exact hstep.imp_right (List.mem_cons_of_mem a)
    · rw [setIfUnset, if_neg hset, List.mem_append, List.mem_singleton] at hstep
      rcases hstep with (hold | rfl) | hrest
      · exact Or.inl hold
      · exact Or.inr List.mem_cons_self
      · exact Or.inr (List.mem_cons_of_mem a hrest)

/-! ## Distinct names -/

theorem Distinct.setIfUnset (h : env.Distinct) (name value : String) :
    (env.setIfUnset name value).Distinct := by
  unfold Environment.setIfUnset
  split
  case isTrue => exact h
  case isFalse hunset =>
    have hnone : env.get? name = none := contains_eq_false_iff.mp (Bool.eq_false_iff.mpr hunset)
    rw [Distinct, List.map_append, List.nodup_append]
    refine ⟨h, List.nodup_singleton _, ?_⟩
    rintro a ha b hb rfl
    obtain rfl := List.mem_singleton.mp hb
    exact lookup_eq_none_iff.mp hnone ha

theorem Distinct.setEachUnset (h : env.Distinct) (assignments : List (String × String)) :
    (env.setEachUnset assignments).Distinct := by
  induction assignments generalizing env with
  | nil => exact h
  | cons a rest ih => exact ih (h.setIfUnset a.1 a.2)

/-- Where names are distinct, a name is bound to its value alone. -/
theorem Distinct.values_eq (h : env.Distinct) (name : String) :
    (env.bindings.filter fun b => b.1 = name).map Prod.snd = (env.get? name).toList := by
  obtain ⟨bindings⟩ := env
  rw [Distinct] at h
  unfold get?
  induction bindings with
  | nil => rfl
  | cons b rest ih =>
    obtain ⟨key, value⟩ := b
    rw [List.map_cons, List.nodup_cons] at h
    by_cases hname : key = name
    · subst hname
      have hrest : rest.filter (fun b => b.1 = key) = [] := by
        refine List.filter_eq_nil_iff.mpr fun a ha hsame => h.1 ?_
        exact List.mem_map.mpr ⟨a, ha, of_decide_eq_true hsame⟩
      simp [hrest]
    · have hother : (name == key) = false := beq_eq_false_iff_ne.mpr (Ne.symm hname)
      simpa [hname, List.lookup_cons, hother] using ih h.2

end Lifecycle.Environment
