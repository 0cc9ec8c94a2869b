import Lifecycle.Proofs.Order.Trail
import Mathlib

/-!
# What a pass resolves

A pass may be ended by a cycle at any time, so what it has resolved by then must not hang on what is
still to come.

* `Walk.Traced`: the trail of a pass holds the resolved vertices with their orders, and **with a vertex
  all that it depends on is resolved**. A step keeps this (`Traced.step`), and so does a whole start
  (`Traced.resolve`).
* **`exists_mem_finished_iff`**: so a first start that meets no cycle resolves what lies on or below
  its vertex and nothing else.
-/

namespace Lifecycle.Walk

open Lifecycle.Graph

variable {α : Type} {g : Graph α}

/-- A pass whose trail and marks agree, and that resolves dependencies first. -/
structure Traced (g : Graph α) (w : Walk) : Prop where
  trail : ∀ v k : Nat, (v, k) ∈ w.finished ↔ w.marks[v]? = some (.resolved k)
  dependency : ∀ v k : Nat, w.marks[v]? = some (.resolved k) →
    ∀ d ∈ g.dependencies v, ∃ n, w.marks[d]? = some (.resolved n)

theorem Traced.init (g : Graph α) (n : Nat) : Traced g (init n) where
  trail := fun v k => by simp [Walk.init, Array.getElem?_replicate]
  dependency := fun v k h => by simp [Walk.init, Array.getElem?_replicate] at h

/-- The marks after a step resolve dependencies of a vertex as those before did. -/
theorem Traced.dependency_later {w : Walk} {marks : Array Mark} (h : Traced g w)
    (hl : Later w.marks marks) {v k : Nat} (hv : w.marks[v]? = some (.resolved k)) :
    ∀ d ∈ g.dependencies v, ∃ n, marks[d]? = some (.resolved n) := fun d hd => by
  obtain ⟨n, hn⟩ := h.dependency v k hv d hd
  exact ⟨n, hl.resolved d n hn⟩

/-- Going down to a vertex resolves none. -/
theorem Traced.push {w : Walk} {d : Nat} (h : Traced g w) (hd : w.marks[d]? = some .unvisited) :
    Traced g (Walk.push g w d) := by
  have hlater : Later w.marks (Walk.push g w d).marks :=
    .set (by simp) fun k hk => by rw [hd] at hk; cases hk
  have hsame : ∀ v k : Nat, (Walk.push g w d).marks[v]? = some (.resolved k) ↔
      w.marks[v]? = some (.resolved k) := fun v k => by
    refine ⟨fun hv => ?_, hlater.resolved v k⟩
    by_cases hne : v = d
    · subst hne
      cases (getElem?_set_self hd).symm.trans hv
    · rwa [Walk.push, Array.getElem?_setIfInBounds_ne (Ne.symm hne)] at hv
  exact ⟨fun v k => (h.trail v k).trans (hsame v k).symm,
    fun v k hv => h.dependency_later hlater ((hsame v k).mp hv)⟩

/-- The innermost frame has read all and is closed. -/
theorem Traced.close {marks : Array Mark} {v order : Nat} {fs : List Frame}
    {finished : List (Nat × Nat)} (h : Traced g ⟨marks, ⟨v, [], order⟩ :: fs, finished⟩)
    (hinv : Inv g none ⟨marks, ⟨v, [], order⟩ :: fs, finished⟩) :
    Traced g ⟨marks.setIfInBounds v (.resolved order), raiseTop order fs, (v, order) :: finished⟩ := by
  obtain ⟨-, hlater⟩ := hinv.close
  have hv : marks[v]? = some .inProgress := (hinv.inProgress v).mpr (by simp)
  refine ⟨fun u k => ?_, fun u k hu => ?_⟩
  · by_cases hne : u = v
    · subst hne
      have hnot : (u, k) ∉ finished := fun hmem => by
        cases hv.symm.trans ((h.trail u k).mp hmem)
      rw [getElem?_set_self hv]
      simp [hnot, eq_comm]
    · rw [Array.getElem?_setIfInBounds_ne (Ne.symm hne), ← h.trail u k]
      simp [hne]
  · by_cases hne : u = v
    · subst hne
      -- the frame has read all dependencies of `u`, and none is being gone down to
      intro d hd
      rcases hinv.stack.1.read hd with hd | hd | ⟨n, -, hn⟩
      · exact absurd hd List.not_mem_nil
      · cases hd
      · exact ⟨n, hlater.resolved d n hn⟩
    · rw [Array.getElem?_setIfInBounds_ne (Ne.symm hne)] at hu
      exact h.dependency_later hlater hu

/-- **A step keeps trail and marks in agreement**, and resolves a vertex after all it depends on. -/
theorem Traced.step {w : Walk} (h : Traced g w) (hinv : Inv g none w) :
    (w.step g).All (Traced g) := by
  obtain ⟨marks, stack, finished⟩ := w
  match stack with
  | [] => exact h
  | ⟨v, [], order⟩ :: fs => exact h.close hinv
  | ⟨v, d :: ds, order⟩ :: fs =>
    have htaken : ∀ fs, Traced g ⟨marks, fs, finished⟩ := fun _ => ⟨h.trail, h.dependency⟩
    obtain ⟨m, hm⟩ := hinv.exists_mark
    simp only [Walk.step, getD_of_getElem? hm]
    cases m with
    | resolved k => exact htaken _
    | inProgress => exact htaken _
    | unvisited => exact (htaken _).push hm

/-- **Resolving a vertex keeps trail and marks in agreement**, whether or not it meets a cycle. -/
theorem Traced.resolve {w : Walk} {v : Nat} (h : Traced g w) (hset : Settled g w) (hv : v < g.size) :
    Traced g (w.resolve g v).1 :=
  resolve_keeps (fun _ hinv hw => hw.step hinv) hset hv h.push h

/-- What lies on or below a resolved vertex is resolved. -/
theorem Traced.resolved_of_reaches {w : Walk} {v u : Nat} (h : Traced g w) (hr : g.Reaches v u)
    (hv : ∃ k, w.marks[v]? = some (.resolved k)) : ∃ n, w.marks[u]? = some (.resolved n) := by
  refine Chain.closed (P := fun u => ∃ n, w.marks[u]? = some (.resolved n)) hr ?_ hv
  rintro u ⟨k, hk⟩ d hd
  exact h.dependency u k hk d hd

/-- **A first start that meets no cycle resolves what lies on or below its vertex**, and no other. -/
theorem exists_mem_finished_iff {w : Walk} {v u : Nat} (hv : v < g.size)
    (hres : (Walk.init g.size).resolve g v = (w, none)) :
    (∃ k, (u, k) ∈ w.finished) ↔ g.Reaches v u := by
  constructor
  · rintro ⟨k, hk⟩
    have hwithin := (Within.init (g.Reaches v) g.size).resolve .init hv .refl
      fun _ hu _ hd => hu.tail hd
    rw [hres] at hwithin
    exact hwithin.finished (u, k) hk
  · intro hr
    have htraced := (Traced.init g g.size).resolve .init hv
    obtain ⟨-, hdone⟩ := resolve_spec .init hv
    rw [hres] at htraced hdone
    have hroot := (hdone rfl).resolved v (List.mem_singleton_self v)
    obtain ⟨k, hk⟩ := htraced.resolved_of_reaches hr hroot
    exact ⟨k, (htraced.trail u k).mpr hk⟩

end Lifecycle.Walk
