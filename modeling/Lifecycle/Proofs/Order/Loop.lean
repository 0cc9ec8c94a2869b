import Lifecycle.Proofs.Order.Agreement
import Lifecycle.Proofs.Order.Coverage
import Mathlib

/-!
# The loop that resolves a vertex

What holds each time that the loop of a pass is at its head, before it takes a turn.

* `Walk.heads` lists the states at the head of a loop: those with a frame on the stack that the loop comes
  to by its steps (`mem_heads_iff`). `headsEach` lists them for all loops of a pass over a list of vertices,
  up to the first cycle.
* `StackInv.frame`: what a frame has read is `FrameReads`, which the invariant of a pass holds for the whole
  stack. The dependency that it read last may have the frame within it; all others are resolved.
* `Between`: the states of a loop follow one another between its start and its end, and none undoes what
  another has resolved.
* **`pass_keeps_loop_invariant`**: at the head of each loop of a pass, stack, marks and orders agree as
  `LoopInv` says.
-/

namespace Lifecycle.Walk

open Lifecycle.Graph

variable {α : Type} {g : Graph α} {w w' w'' : Walk}

/-! ## The head of the loop -/

/-- The states at the head of the loop: `w` and those that follow, as long as there is a frame. -/
def heads (g : Graph α) (w : Walk) : List Walk :=
  match _h : w.step g with
  | .rest _ => []
  | .cycle _ _ => [w]
  | .next w' => w :: heads g w'
termination_by (markCount w.marks .unvisited, pending w.stack)
decreasing_by exact measure_step _h

/-- The states at the head of the loop that resolves a vertex. There is no loop if that is done already. -/
def headsFrom (g : Graph α) (w : Walk) (v : Nat) : List Walk :=
  match w.mark v with
  | .unvisited => heads g (push g w v)
  | _ => []

/-- The states at the head of the loops that resolve the listed vertices in turn, up to the first cycle. -/
def headsEach (g : Graph α) (w : Walk) : List Nat → List Walk
  | [] => []
  | v :: vs =>
    match w.resolve g v with
    | (_, some _) => headsFrom g w v
    | (w', none) => headsFrom g w v ++ headsEach g w' vs

theorem stack_eq_nil_of_rest (h : w.step g = .rest w') : w.stack = [] := by
  obtain ⟨marks, stack, finished⟩ := w
  unfold step at h
  split at h
  · rename_i heq
    exact (Walk.mk.inj heq).2.1
  · cases h
  · split at h <;> cases h

theorem step_of_stack_eq_nil (h : w.stack = []) : w.step g = .rest w := by
  obtain ⟨marks, stack, finished⟩ := w
  obtain rfl : stack = [] := h
  rfl

/-- **The states at the head of the loop** are those with a frame that it comes to step by step. -/
theorem mem_heads_iff :
    w' ∈ heads g w ↔
      Relation.ReflTransGen (fun a b => a.step g = .next b) w w' ∧ w'.stack ≠ [] := by
  constructor
  · intro h
    fun_induction heads g w with
    | case1 => exact absurd h List.not_mem_nil
    | case2 w v vertices hstep =>
      obtain rfl := List.mem_singleton.mp h
      refine ⟨.refl, fun hstack => ?_⟩
      cases (step_of_stack_eq_nil hstack).symm.trans hstep
    | case3 w v hstep ih =>
      rcases List.mem_cons.mp h with rfl | h
      · refine ⟨.refl, fun hstack => ?_⟩
        cases (step_of_stack_eq_nil hstack).symm.trans hstep
      · exact ⟨.head hstep (ih h).1, (ih h).2⟩
  · rintro ⟨hsteps, hstack⟩
    induction hsteps using Relation.ReflTransGen.head_induction_on with
    | refl =>
      unfold heads
      split
      · rename_i hstep
        exact absurd (stack_eq_nil_of_rest hstep) hstack
      · exact List.mem_singleton_self w'
      · exact List.mem_cons_self
    | head hstep _ ih =>
      unfold heads
      split <;> rename_i hstep' <;> cases hstep.symm.trans hstep'
      exact List.mem_cons_of_mem _ ih

/-- What each turn keeps holds whenever the loop is at its head. -/
theorem forall_mem_heads {P : Walk → Prop}
    (hturn : ∀ w w', Inv g none w → P w → w.step g = .next w' → P w') (hinv : Inv g none w) (h : P w) :
    ∀ w' ∈ heads g w, Inv g none w' ∧ P w' := by
  intro w' hw'
  obtain ⟨hsteps, -⟩ := mem_heads_iff.mp hw'
  clear hw'
  induction hsteps with
  | refl => exact ⟨hinv, h⟩
  | tail _ hstep ih =>
    have hspec := step_spec ih.1
    rw [hstep] at hspec
    exact ⟨hspec.inv, hturn _ _ ih.1 ih.2 hstep⟩

/-- What a frame has read, given the frames within it. -/
theorem StackInv.frame {marks : Array Mark} {f : Frame} {outer : List Frame} :
    ∀ {inner : Option Nat} {within : List Frame}, StackInv g marks inner (within ++ f :: outer) →
      FrameInv g marks ((within.getLast?.map Frame.vertex).or inner) f
  | _, [], h => h.1
  | _, f' :: within, h => by
    have hf := StackInv.frame h.2
    rw [List.getLast?_cons]
    cases hlast : within.getLast? with
    | none => rwa [hlast] at hf
    | some f'' => rwa [hlast] at hf

/-! ## States that follow one another -/

/-- A step undoes nothing. -/
theorem Later.step (h : Inv g none w) : (w.step g).All fun w' => Later w.marks w'.marks := by
  obtain ⟨marks, stack, finished⟩ := w
  match stack with
  | [] => exact .refl marks
  | ⟨v, [], order⟩ :: fs => exact h.close.2
  | ⟨v, d :: ds, order⟩ :: fs =>
    obtain ⟨m, hm⟩ := h.exists_mark
    simp only [Walk.step, getD_of_getElem? hm]
    cases m with
    | resolved k => exact .refl marks
    | inProgress => exact .refl marks
    | unvisited => exact (h.descend.push hm).2

/-- States that follow one another from `w` to `w'`, none of which undoes what another has done. -/
structure Between (w : Walk) (states : List Walk) (w' : Walk) : Prop where
  start : ∀ u ∈ states, Later w.marks u.marks
  finish : ∀ u ∈ states, Later u.marks w'.marks
  pairwise : states.Pairwise fun a b => Later a.marks b.marks
  whole : Later w.marks w'.marks

section Between

variable {states states' : List Walk}

theorem Between.nil (h : Later w.marks w'.marks) : Between w [] w' where
  start := fun _ hu => absurd hu List.not_mem_nil
  finish := fun _ hu => absurd hu List.not_mem_nil
  pairwise := .nil
  whole := h

theorem Between.append (h : Between w states w') (h' : Between w' states' w'') :
    Between w (states ++ states') w'' where
  start := fun u hu => (List.mem_append.mp hu).elim (h.start u) fun hu => h.whole.trans (h'.start u hu)
  finish := fun u hu =>
    (List.mem_append.mp hu).elim (fun hu => (h.finish u hu).trans h'.whole) (h'.finish u)
  pairwise := List.pairwise_append.mpr
    ⟨h.pairwise, h'.pairwise, fun a ha b hb => (h.finish a ha).trans (h'.start b hb)⟩
  whole := h.whole.trans h'.whole

theorem Between.singleton (h : Later w.marks w'.marks) : Between w [w] w' where
  start := fun u hu => by
    obtain rfl := List.mem_singleton.mp hu
    exact .refl _
  finish := fun u hu => by
    obtain rfl := List.mem_singleton.mp hu
    exact h
  pairwise := List.pairwise_singleton _ _
  whole := h

end Between

/-- The states at the head of the loop follow one another up to the end of the run. -/
theorem between_heads (hinv : Inv g none w) : Between w (heads g w) (run g w).1 := by
  fun_induction heads g w with
  | case1 w w' hstep =>
    have hlater := Later.step hinv
    rw [run_eq, hstep]
    rw [hstep] at hlater
    exact .nil hlater
  | case2 w w' vertices hstep =>
    have hlater := Later.step hinv
    rw [run_eq, hstep]
    rw [hstep] at hlater
    exact .singleton hlater
  | case3 w w' hstep ih =>
    have hspec := step_spec hinv
    rw [run_eq, hstep]
    rw [hstep] at hspec
    exact (Between.singleton hspec.later).append (ih hspec.inv)

/-! ## The invariant -/

/-- **The invariant of the loop.** The stack has its innermost frame first. -/
structure LoopInv (g : Graph α) (w : Walk) : Prop where
  /-- The vertices in progress are those on the stack. -/
  inProgress : ∀ v : Nat, w.marks[v]? = some .inProgress ↔ v ∈ w.stack.map Frame.vertex
  /-- Each of them stands there once. -/
  nodup : (w.stack.map Frame.vertex).Nodup
  /-- What a resolved vertex depends on is resolved. -/
  closed : ∀ v k : Nat, w.marks[v]? = some (.resolved k) →
    ∀ d ∈ g.dependencies v, ∃ n, w.marks[d]? = some (.resolved n)
  /-- There is no cycle below a resolved vertex. -/
  acyclic : ∀ v k : Nat, w.marks[v]? = some (.resolved k) →
    ∀ vertices, g.IsCycle vertices → ∀ u ∈ vertices, ¬ g.Reaches v u
  /-- The order of a resolved vertex is the length of the longest path from it. -/
  depth : ∀ v k : Nat, w.marks[v]? = some (.resolved k) → g.HasDepth v k
  /-- A frame has read the first dependencies of its vertex. The last of them is the vertex of the frame
  directly within it, if there is one; the others are resolved, and their orders make its order. -/
  frames : ∀ (within : List Frame) (f : Frame) (outer : List Frame), w.stack = within ++ f :: outer →
    ∃ done orders, FrameReads g w.marks (within.getLast?.map Frame.vertex) f done orders

theorem Inv.loopInv (hinv : Inv g none w) (htraced : Traced g w) : LoopInv g w where
  inProgress := fun v => (hinv.inProgress v).trans List.mem_reverse
  nodup := List.nodup_reverse.mp hinv.nodup
  closed := htraced.dependency
  acyclic := fun v k hv vertices hcycle u hu hr => (hinv.depth v k hv).not_isCycle hr hu hcycle
  depth := hinv.depth
  frames := fun within f outer hstack => by
    have hframe := hinv.stack
    rw [hstack] at hframe
    have hreads := hframe.frame
    rw [Option.or_none] at hreads
    exact hreads

/-- The invariant holds whenever a loop that starts with it is at its head. -/
theorem loopInv_of_mem_heads (hinv : Inv g none w) (htraced : Traced g w) :
    ∀ u ∈ heads g w, LoopInv g u := by
  have hkept := forall_mem_heads (g := g) (w := w) (P := Traced g)
    (fun a b ha htraced hstep => by
      have htraced' := htraced.step ha
      rw [hstep] at htraced'
      exact htraced') hinv htraced
  exact fun u hu => (hkept u hu).1.loopInv (hkept u hu).2

/-! ## Passes -/

/-- A pass between two starts, with trail and marks in agreement. -/
structure Paused (g : Graph α) (w : Walk) : Prop where
  settled : Settled g w
  traced : Traced g w

/-- What the loops that lead from one state of a pass to another show at their heads. -/
structure Shows (g : Graph α) (w : Walk) (states : List Walk) (w' : Walk) : Prop where
  loopInv : ∀ u ∈ states, LoopInv g u
  between : Between w states w'

/-- Resolving a vertex. -/
theorem shows_headsFrom (h : Paused g w) (v : Nat) :
    Shows g w (headsFrom g w v) (w.resolve g v).1 ∧
      ((w.resolve g v).2 = none → Paused g (w.resolve g v).1) := by
  have hidle : Shows g w [] w := ⟨fun _ hu => absurd hu List.not_mem_nil, .nil (.refl _)⟩
  unfold headsFrom resolve
  cases hmark : w.mark v with
  | unvisited =>
    have hv : w.marks[v]? = some .unvisited := getElem?_of_getD hmark (by simp)
    obtain ⟨hinv, hlater⟩ := h.settled.push hv
    have htraced : Traced g (push g w v) := h.traced.push hv
    refine ⟨⟨loopInv_of_mem_heads hinv htraced, ?_⟩, fun hnone => ⟨?_, ?_⟩⟩
    · exact (Between.nil hlater).append (between_heads hinv)
    · exact ((run_spec hinv).2 hnone).1
    · exact run_keeps (fun _ hinv hw => hw.step hinv) hinv htraced
  | inProgress => exact ⟨hidle, fun _ => h⟩
  | resolved k => exact ⟨hidle, fun _ => h⟩

/-- Resolving the listed vertices. -/
theorem shows_headsEach :
    ∀ (vs : List Nat) {w : Walk}, Paused g w → Shows g w (headsEach g w vs) (w.resolveEach g vs).1
  | [], _, _ => ⟨fun _ hu => absurd hu List.not_mem_nil, .nil (.refl _)⟩
  | v :: vs, w, h => by
    obtain ⟨hshows, hpaused⟩ := shows_headsFrom h v
    rw [headsEach, resolveEach]
    obtain ⟨w', found, hres⟩ : ∃ w' found, w.resolve g v = (w', found) := ⟨_, _, rfl⟩
    rw [hres] at hshows hpaused ⊢
    cases found with
    | some vertices => exact hshows
    | none =>
      have hrest := shows_headsEach vs (hpaused rfl)
      refine ⟨fun u hu => ?_, hshows.between.append hrest.between⟩
      exact (List.mem_append.mp hu).elim (hshows.loopInv u) (hrest.loopInv u)

/-- **A pass keeps the invariant of its loop.** Whatever the graph and the list of vertices, each time that
the loop is at its head, for whichever vertex of the list, and before the first cycle is found, stack, marks
and orders agree. What is resolved then keeps its order up to the end of the pass. -/
theorem pass_keeps_loop_invariant (g : Graph α) (vs : List Nat) :
    (∀ w ∈ headsEach g (init g.size) vs, LoopInv g w) ∧
      (headsEach g (init g.size) vs ++ [(g.pass vs).1]).Pairwise fun w w' =>
        ∀ v k : Nat, w.marks[v]? = some (.resolved k) → w'.marks[v]? = some (.resolved k) := by
  obtain ⟨hinv, hbetween⟩ := shows_headsEach vs ⟨.init, Traced.init g g.size⟩
  refine ⟨hinv, List.pairwise_append.mpr ⟨?_, List.pairwise_singleton _ _, fun w hw w' hw' => ?_⟩⟩
  · exact hbetween.pairwise.imp fun hlater => hlater.resolved
  · obtain rfl := List.mem_singleton.mp hw'
    exact (hbetween.finish w hw).resolved

/-- The diamond after one of its sides was resolved by itself: the frame of `a` has read both sides, with the
frame of the other side within it, and has its order from the first. -/
theorem diamond_half_resolved : ∃ w ∈ headsEach diamond (init diamond.size) [1, 0],
    w.marks = #[.inProgress, .resolved 1, .inProgress, .resolved 0] ∧
      w.stack = [⟨2, [3], 0⟩, ⟨0, [], 2⟩] ∧ LoopInv diamond w := by
  have hhead : (headsEach diamond (init diamond.size) [1, 0])[5]? = some
      ⟨#[.inProgress, .resolved 1, .inProgress, .resolved 0], [⟨2, [3], 0⟩, ⟨0, [], 2⟩],
        [(1, 1), (3, 0)]⟩ := by cbv
  have hmem := List.mem_of_getElem? hhead
  exact ⟨_, hmem, rfl, rfl, (pass_keeps_loop_invariant diamond [1, 0]).1 _ hmem⟩

end Lifecycle.Walk
