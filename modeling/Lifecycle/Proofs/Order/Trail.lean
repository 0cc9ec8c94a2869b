import Lifecycle.Order.Walk
import Lifecycle.Proofs.Order.Walk
import Mathlib

/-!
# The trail of a pass

A pass only visits what it is sent to and what lies below that, and leaves a trail of what it resolved.

* `run_keeps` and `resolve_keeps`: what every step of a pass keeps is kept by a run and by a start.
* **`Within.resolve`**: resolving a vertex leaves no trail outside a set of vertices that holds the
  vertex and the dependencies of its members.
* **`Truthful.resolve`**: the orders on the trail are depths.
-/

namespace Lifecycle.Walk

variable {α : Type} {g : Graph α} {p : Nat → Prop}

/-! ## What steps keep -/

/-- The pass that a step leads to has the property `P`, also if it ends in a cycle. -/
def Step.All (P : Walk → Prop) : Step → Prop
  | rest w => P w
  | next w => P w
  | cycle w _ => P w

section Keeps

variable {P : Walk → Prop} (hstep : ∀ w, Inv g none w → P w → (w.step g).All P)
include hstep

/-- **What every step keeps a run keeps**, also one that ends in a cycle. -/
theorem run_keeps {w : Walk} (hinv : Inv g none w) (h : P w) : P (run g w).1 := by
  fun_induction Walk.run g w with
  | case1 w w' heq =>
    have hkept := hstep w hinv h
    rw [heq] at hkept
    exact hkept
  | case2 w w' vertices heq =>
    have hkept := hstep w hinv h
    rw [heq] at hkept
    exact hkept
  | case3 w w' heq ih =>
    have hkept := hstep w hinv h
    have hspec := step_spec hinv
    rw [heq] at hkept hspec
    exact ih hspec.inv hkept

/-- **Resolving a vertex keeps** what the steps keep and going down to the vertex does. -/
theorem resolve_keeps {w : Walk} {v : Nat} (hset : Settled g w) (hv : v < g.size)
    (hpush : w.marks[v]? = some .unvisited → P (push g w v)) (h : P w) : P (w.resolve g v).1 := by
  rcases hset.mark hv with hm | ⟨k, hm⟩
  · have hmark : w.mark v = .unvisited := getD_of_getElem? hm
    simp only [Walk.resolve, hmark]
    exact run_keeps hstep (hset.push hm).1 (hpush hm)
  · have hmark : w.mark v = .resolved k := getD_of_getElem? hm
    simp only [Walk.resolve, hmark]
    exact h

end Keeps

/-! ## Where a pass goes -/

/-- All that a pass has on its stack, still has to read and has resolved has the property `p`. -/
structure Within (p : Nat → Prop) (w : Walk) : Prop where
  stack : ∀ f ∈ w.stack, p f.vertex ∧ ∀ d ∈ f.rest, p d
  finished : ∀ e ∈ w.finished, p e.1

theorem Within.init (p : Nat → Prop) (n : Nat) : Within p (init n) :=
  ⟨fun _ hf => absurd hf List.not_mem_nil, fun _ he => absurd he List.not_mem_nil⟩

theorem Within.push {w : Walk} {v : Nat} (h : Within p w) (hv : p v)
    (hp : ∀ v, p v → ∀ d ∈ g.dependencies v, p d) : Within p (push g w v) where
  stack := fun f hf => by
    rcases List.mem_cons.mp hf with rfl | hf
    · exact ⟨hv, hp v hv⟩
    · exact h.stack f hf
  finished := h.finished

/-- Raising a frame changes neither its vertex nor what it still has to read. -/
theorem within_raiseTop {fs : List Frame} {k : Nat}
    (h : ∀ f ∈ fs, p f.vertex ∧ ∀ d ∈ f.rest, p d) :
    ∀ f ∈ raiseTop k fs, p f.vertex ∧ ∀ d ∈ f.rest, p d := by
  cases fs with
  | nil => exact h
  | cons f fs =>
    intro f' hf'
    rcases List.mem_cons.mp hf' with rfl | hf'
    · exact h f List.mem_cons_self
    · exact h f' (List.mem_cons_of_mem f hf')

/-- **A step stays within** a set of vertices that holds the dependencies of its members. -/
theorem Within.step {w : Walk} (h : Within p w) (hp : ∀ v, p v → ∀ d ∈ g.dependencies v, p d) :
    (w.step g).All (Within p) := by
  obtain ⟨marks, stack, finished⟩ := w
  match stack with
  | [] => exact h
  | ⟨v, [], order⟩ :: fs =>
    obtain ⟨hv, -⟩ := h.stack _ List.mem_cons_self
    refine ⟨within_raiseTop fun f hf => h.stack f (List.mem_cons_of_mem _ hf), fun e he => ?_⟩
    rcases List.mem_cons.mp he with rfl | he
    · exact hv
    · exact h.finished e he
  | ⟨v, d :: ds, order⟩ :: fs =>
    obtain ⟨hv, hrest⟩ := h.stack _ List.mem_cons_self
    -- the dependency is taken up, so the innermost frame has one less to read
    have htaken : ∀ k, Within p ⟨marks, ⟨v, ds, k⟩ :: fs, finished⟩ := fun k => by
      refine ⟨fun f hf => ?_, h.finished⟩
      rcases List.mem_cons.mp hf with rfl | hf
      · exact ⟨hv, fun e he => hrest e (List.mem_cons_of_mem d he)⟩
      · exact h.stack f (List.mem_cons_of_mem _ hf)
    simp only [Walk.step]
    cases marks.getD d (.resolved 0) with
    | resolved k => exact htaken _
    | inProgress => exact htaken order
    | unvisited => exact (htaken order).push (hrest d List.mem_cons_self) hp

/-- **Resolving a vertex stays within** a set that holds it and the dependencies of its members. -/
theorem Within.resolve {w : Walk} {v : Nat} (h : Within p w) (hset : Settled g w) (hlt : v < g.size)
    (hv : p v) (hp : ∀ v, p v → ∀ d ∈ g.dependencies v, p d) : Within p (w.resolve g v).1 :=
  resolve_keeps (fun _ _ hw => hw.step hp) hset hlt (fun _ => h.push hv hp) h

/-! ## Orders -/

/-- The orders on the trail of a pass are depths. -/
def Truthful (g : Graph α) (w : Walk) : Prop := ∀ e ∈ w.finished, g.HasDepth e.1 e.2

theorem Truthful.init (g : Graph α) (n : Nat) : Truthful g (init n) :=
  fun _ he => absurd he List.not_mem_nil

/-- **A step leaves a trail of depths**: a frame is closed when its vertex has its depth. -/
theorem Truthful.step {w : Walk} (h : Truthful g w) (hinv : Inv g none w) :
    (w.step g).All (Truthful g) := by
  obtain ⟨marks, stack, finished⟩ := w
  match stack with
  | [] => exact h
  | ⟨v, [], order⟩ :: fs =>
    intro e he
    rcases List.mem_cons.mp he with rfl | he
    · exact hinv.stack.1.hasDepth hinv.depth
    · exact h e he
  | ⟨v, d :: ds, order⟩ :: fs =>
    simp only [Walk.step]
    cases marks.getD d (.resolved 0) with
    | resolved k => exact h
    | inProgress => exact h
    | unvisited => exact h

/-- **Resolving a vertex leaves a trail of depths.** -/
theorem Truthful.resolve {w : Walk} {v : Nat} (h : Truthful g w) (hset : Settled g w)
    (hv : v < g.size) : Truthful g (w.resolve g v).1 :=
  resolve_keeps (fun _ hinv hw => hw.step hinv) hset hv (fun _ => h) h

end Lifecycle.Walk
