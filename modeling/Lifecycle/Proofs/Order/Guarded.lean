import Lifecycle.Order.Guarded
import Lifecycle.Proofs.Graph.Build
import Lifecycle.Proofs.Order.Agreement
import Mathlib

/-!
# A pass never leaves its domain

A guarded pass stops with a fault wherever a pass would have to fall back on a default. It never does,
and so both are the same.

* `Walk.work` is the number of turns that a pass has before it: one for each dependency that is still
  to be read and one for each frame that is still to be closed. A turn takes one off (`turn_spec`).
* `FrameInv.order_le`: the order of a frame is below the number of vertices at any time, since below
  each dependency that was read there is a path that does not come back to the frame's vertex.
* **`turn_spec`**: a turn has no fault, and does what a step does. **`loop_spec`** says so of a run that
  may take as many turns as there is work, and `guardedEach_spec` of a list of vertices.
* **`pass_stays_in_domain`**: a guarded pass has no fault, and ends as the pass does.
-/

namespace Lifecycle

/-- The depth of a dependency is smaller than the number of vertices by two at least. -/
theorem Graph.HasDepth.succ_lt_size {α : Type} {g : Graph α} {v d k : Nat} (h : g.HasDepth d k)
    (hd : d ∈ g.dependencies v) : k + 1 < g.size := by
  obtain ⟨path, hpath, rfl⟩ := h.attained
  have hfresh : v ∉ d :: path := fun hv =>
    h.not_reachesBelow (.trans_right (Chain.reaches_of_mem hpath hv) (.single hd))
  have hlong : g.IsPath (v :: d :: path) := hpath.cons_cons hd
  exact hlong.length_lt (List.nodup_cons.mpr ⟨hfresh, h.nodup hpath⟩) (lt_of_mem_dependencies hd)

namespace Walk

open Lifecycle.Graph

variable {α : Type} {g : Graph α}

/-! ## Work -/

/-- The turns that the vertices without a mark are worth. -/
def unvisitedWork (g : Graph α) (marks : Array Mark) : Nat :=
  ∑ v ∈ Finset.range g.size with marks[v]? = some .unvisited, ((g.dependencies v).length + 1)

/-- The turns that a pass has before it, if it meets no cycle. -/
def work (g : Graph α) (w : Walk) : Nat := unvisitedWork g w.marks + pending w.stack

/-- At first there are all vertices to close and all edges to read. -/
theorem work_init (g : Graph α) : work g (init g.size) = g.size + g.edgeCount := by
  have hall : ∀ v ∈ Finset.range g.size, (init g.size).marks[v]? = some .unvisited := fun v hv => by
    simp [Walk.init, Finset.mem_range.mp hv]
  rw [work, unvisitedWork, Finset.filter_true_of_mem hall, Finset.sum_add_distrib,
    ← edgeCount_eq_sum, Finset.sum_const, Finset.card_range]
  simp [Walk.init, pending, Nat.add_comm]

/-- Going down to a vertex is no work yet. -/
theorem work_push {w : Walk} {d : Nat} (hd : w.marks[d]? = some .unvisited) (hlt : d < g.size) :
    work g (push g w d) = work g w := by
  have hmem : d ∈ (Finset.range g.size).filter fun v => w.marks[v]? = some .unvisited :=
    Finset.mem_filter.mpr ⟨Finset.mem_range.mpr hlt, hd⟩
  have herase : ((Finset.range g.size).filter fun v =>
      (w.marks.setIfInBounds d .inProgress)[v]? = some .unvisited)
        = ((Finset.range g.size).filter fun v => w.marks[v]? = some .unvisited).erase d := by
    ext v
    rw [Finset.mem_erase, Finset.mem_filter, Finset.mem_filter]
    by_cases hv : v = d
    · subst hv
      simp [getElem?_set_self hd]
    · rw [Array.getElem?_setIfInBounds_ne (Ne.symm hv)]
      simp [hv]
  have hsum := Finset.add_sum_erase _ (fun v => (g.dependencies v).length + 1) hmem
  rw [work, work, push, unvisitedWork, unvisitedWork, herase, ← hsum]
  simp only [pending, Frame.enter, List.foldr_cons]
  omega

/-- A vertex in progress is no unvisited one, and it is none after it is resolved. -/
theorem unvisitedWork_resolve {marks : Array Mark} {v k : Nat} (hv : marks[v]? = some .inProgress) :
    unvisitedWork g (marks.setIfInBounds v (.resolved k)) = unvisitedWork g marks := by
  refine Finset.sum_congr (Finset.filter_congr fun u _ => ?_) fun _ _ => rfl
  by_cases hu : u = v
  · subst hu
    rw [getElem?_set_self hv, hv]
    simp
  · rw [Array.getElem?_setIfInBounds_ne (Ne.symm hu)]

/-- Closing a frame is a turn's work. -/
theorem work_close {marks : Array Mark} {v order : Nat} {fs : List Frame}
    {finished : List (Nat × Nat)} (hv : marks[v]? = some .inProgress) :
    work g ⟨marks, ⟨v, [], order⟩ :: fs, finished⟩
      = work g ⟨marks.setIfInBounds v (.resolved order), raiseTop order fs,
          (v, order) :: finished⟩ + 1 := by
  rw [work, work, unvisitedWork_resolve hv, pending_raiseTop]
  simp only [pending, List.foldr_cons, List.length_nil]
  omega

/-- Reading a dependency is a turn's work. -/
theorem work_read {marks : Array Mark} {v d order k : Nat} {ds : List Nat} {fs : List Frame}
    {finished : List (Nat × Nat)} :
    work g ⟨marks, ⟨v, d :: ds, order⟩ :: fs, finished⟩
      = work g ⟨marks, ⟨v, ds, k⟩ :: fs, finished⟩ + 1 := by
  simp only [work, pending, List.foldr_cons, List.length_cons]
  omega

/-! ## Guards that hold -/

/-- **The order of a frame is below the number of vertices.** -/
theorem FrameInv.order_le {marks : Array Mark} {inner : Option Nat} {f : Frame}
    (h : FrameInv g marks inner f)
    (hmarks : ∀ v k : Nat, marks[v]? = some (.resolved k) → g.HasDepth v k) :
    f.order ≤ g.size - 1 := by
  rcases h.attained with h0 | ⟨d, hd, n, hn, hm⟩
  · rw [h0]
    exact Nat.zero_le _
  · have hlt := (hmarks d n hm).succ_lt_size hd
    omega

/-- A guard that holds hands its value on. -/
theorem ok_bind {β γ : Type} (x : β) (next : β → Except Fault γ) : (.ok x >>= next) = next x := rfl

theorem readMark_eq {marks : Array Mark} {v : Nat} {m : Mark} (hv : marks[v]? = some m) :
    readMark marks v = .ok m := by
  rw [readMark, hv]

theorem writeMark_eq {marks : Array Mark} {v : Nat} {m m' : Mark} (hv : marks[v]? = some m') :
    writeMark marks v m = .ok (marks.setIfInBounds v m) := by
  obtain ⟨hlt, -⟩ := Array.getElem?_eq_some_iff.mp hv
  rw [writeMark, if_pos hlt]

theorem raiseWithin_eq {marks : Array Mark} {d k : Nat} {f : Frame}
    (h : FrameInv g marks (some d) f) (hd : marks[d]? = some (.resolved k))
    (hmarks : ∀ v k : Nat, marks[v]? = some (.resolved k) → g.HasDepth v k) :
    raiseWithin (g.size - 1) f k = .ok (f.raise k) := by
  have hle : max f.order (k + 1) ≤ g.size - 1 := (h.raise hd).order_le hmarks
  rw [raiseWithin, if_pos hle]

/-- A vertex on the stack is found there, and the cycle is cut where it stands. -/
theorem cutCycle_eq {stack : List Frame} {d : Nat} (hn : (stackPath stack).Nodup)
    (hd : d ∈ stackPath stack) : cutCycle stack d = .ok (closeCycle stack d) := by
  obtain ⟨before, after, hsplit, hbefore⟩ := List.eq_append_cons_of_mem hd
  have hpath : (stack.map Frame.vertex).reverse = before ++ d :: after := hsplit
  have hnone : before.findIdx? (· == d) = none :=
    List.findIdx?_eq_none_iff.mpr fun u hu => beq_eq_false_iff_ne.mpr fun h => hbefore (h ▸ hu)
  have hfind : (before ++ d :: after).findIdx? (· == d) = some before.length := by
    rw [List.findIdx?_append, hnone, List.findIdx?_cons, beq_self_eq_true]
    simp
  rw [closeCycle_eq hn hd, hsplit, dropWhile_ne_append hbefore]
  simp only [cutCycle, hpath, hfind, List.drop_left]

/-! ## Turns -/

/-- A turn does what a step does, and takes one off the work. -/
def Turn.Follows (g : Graph α) (w : Walk) : Turn → Prop
  | again w' => w.step g = .next w' ∧ w'.stack ≠ [] ∧ work g w = work g w' + 1
  | resolved w' _ => w.step g = .next w' ∧ w'.stack = [] ∧ work g w = work g w' + 1
  | cycle w' vertices => w.step g = .cycle w' vertices

/-- **A turn has no fault** as long as there is a frame, **and does what a step does.** -/
theorem turn_spec {w : Walk} (h : Inv g none w) (hstack : w.stack ≠ []) :
    ∃ t, turn g (g.size - 1) w = .ok t ∧ t.Follows g w := by
  obtain ⟨marks, stack, finished⟩ := w
  match stack with
  | [] => exact absurd rfl hstack
  | ⟨v, [], order⟩ :: fs =>
    have hv : marks[v]? = some .inProgress := (h.inProgress v).mpr (by simp)
    have hwrite : writeMark marks v (.resolved order) = .ok _ := writeMark_eq hv
    obtain ⟨hclosed, hlater⟩ := h.close
    cases fs with
    | nil =>
      refine ⟨.resolved _ order, ?_, rfl, rfl, work_close hv⟩
      simp only [turn, hwrite, ok_bind]
      rfl
    | cons f fs =>
      -- the frame outside is raised when `v` is marked already
      have hraise : raiseWithin (g.size - 1) f order = .ok (f.raise order) :=
        raiseWithin_eq (h.stack.2.later hlater).1 (getElem?_set_self hv) hclosed.depth
      refine ⟨.again _, ?_, rfl, List.cons_ne_nil _ _, work_close hv⟩
      simp only [turn, hwrite, ok_bind, hraise]
      rfl
  | ⟨v, d :: ds, order⟩ :: fs =>
    obtain ⟨m, hm⟩ := h.exists_mark
    have hread : readMark marks d = .ok m := readMark_eq hm
    have hlt : d < g.size := dependency_lt (h.stack.1.mem_dependencies (Or.inr List.mem_cons_self))
    have hstep := Walk.step.eq_def g ⟨marks, ⟨v, d :: ds, order⟩ :: fs, finished⟩
    simp only [getD_of_getElem? hm] at hstep
    cases m with
    | resolved k =>
      have hraise := raiseWithin_eq h.descend.stack.1 hm h.depth
      refine ⟨.again _, ?_, hstep, List.cons_ne_nil _ _, work_read⟩
      simp only [turn, hread, ok_bind, hraise]
      rfl
    | inProgress =>
      have hcut : cutCycle (⟨v, ds, order⟩ :: fs) d = .ok _ :=
        cutCycle_eq h.nodup ((h.inProgress d).mp hm)
      refine ⟨.cycle _ _, ?_, hstep⟩
      simp only [turn, hread, ok_bind, hcut]
      rfl
    | unvisited =>
      have hwrite : writeMark marks d .inProgress = .ok _ := writeMark_eq hm
      refine ⟨.again _, ?_, hstep, List.cons_ne_nil _ _, ?_⟩
      · simp only [turn, hread, ok_bind, hwrite]
        rfl
      · rw [work_push hm hlt]
        exact work_read

/-! ## Loops -/

theorem run_of_stack_eq_nil {w : Walk} (h : w.stack = []) : run g w = (w, none) := by
  obtain ⟨marks, stack, finished⟩ := w
  obtain rfl : stack = [] := h
  rw [run_eq]
  rfl

/-- A loop has ended as a run does, and has turns for the work that is left. -/
def Ending.Agrees (g : Graph α) : Ending → Walk × Option (List Nat) → Prop
  | ⟨w, turns, .ok _⟩, p => p = (w, none) ∧ work g w ≤ turns
  | ⟨w, _, .error vertices⟩, p => p = (w, some vertices)

/-- **A loop that has turns for its work ends without a fault**, and as a run does. -/
theorem loop_spec :
    ∀ {turns : Nat} {w : Walk}, Inv g none w → w.stack ≠ [] → work g w ≤ turns →
      ∃ e, loop g (g.size - 1) turns w = .ok e ∧ e.Agrees g (run g w)
  | 0, w, _, hstack, hturns => by
    -- a frame is work at least for closing it
    obtain ⟨f, fs, hcons⟩ := List.exists_cons_of_ne_nil hstack
    rw [work, hcons, pending, List.foldr_cons] at hturns
    omega
  | turns + 1, w, h, hstack, hturns => by
    obtain ⟨t, hturn, hfollows⟩ := turn_spec h hstack
    have hspec := step_spec h
    rw [run_eq]
    cases t with
    | again w' =>
      obtain ⟨hstep, hstack', hwork⟩ := hfollows
      rw [hstep] at hspec
      obtain ⟨e, hloop, hagrees⟩ := loop_spec hspec.inv hstack' (by omega : work g w' ≤ turns)
      refine ⟨e, ?_, by rw [hstep]; exact hagrees⟩
      rw [loop, hturn, ok_bind]
      exact hloop
    | resolved w' order =>
      obtain ⟨hstep, hdone, hwork⟩ := hfollows
      refine ⟨⟨w', turns, .ok order⟩, by rw [loop, hturn]; rfl, ?_, by omega⟩
      rw [hstep]
      exact run_of_stack_eq_nil hdone
    | cycle w' vertices =>
      have hstep : w.step g = .cycle w' vertices := hfollows
      exact ⟨⟨w', turns, .error vertices⟩, by rw [loop, hturn]; rfl, by rw [hstep]; rfl⟩

/-! ## Passes -/

theorem order?_eq {w : Walk} {v k : Nat} (hv : w.marks[v]? = some (.resolved k)) :
    w.order? v = some k := by
  rw [order?, hv]

theorem guardedResolve_spec {w : Walk} {v turns : Nat} (h : Settled g w) (hv : v < g.size)
    (hturns : work g w ≤ turns) :
    ∃ e, guardedResolve g (g.size - 1) turns w v = .ok e ∧ e.Agrees g (w.resolve g v) := by
  rcases h.mark hv with hm | ⟨k, hm⟩
  · have hnone : w.order? v = none := by rw [order?, hm]
    have hwrite : writeMark w.marks v .inProgress = .ok _ := writeMark_eq hm
    have hmark : w.mark v = .unvisited := getD_of_getElem? hm
    obtain ⟨e, hloop, hagrees⟩ := loop_spec (h.push hm).1 (List.cons_ne_nil _ _)
      ((work_push hm hv).trans_le hturns)
    refine ⟨e, ?_, by simpa only [resolve, hmark] using hagrees⟩
    simp only [guardedResolve, hnone, hwrite, ok_bind]
    rw [push, h.stack] at hloop
    exact hloop
  · have hsome : w.order? v = some k := order?_eq hm
    have hmark : w.mark v = .resolved k := getD_of_getElem? hm
    refine ⟨⟨w, turns, .ok k⟩, ?_, ?_⟩
    · simp only [guardedResolve, hsome]
      rfl
    · simp only [resolve, hmark]
      exact ⟨rfl, hturns⟩

/-- **A list is resolved without a fault**, if there are turns for the work. -/
theorem guardedEach_spec :
    ∀ {vs : List Nat} {turns : Nat} {w : Walk}, Settled g w → (∀ v ∈ vs, v < g.size) →
      work g w ≤ turns → guardedEach g (g.size - 1) turns w vs = .ok (w.resolveEach g vs)
  | [], _, _, _, _, _ => rfl
  | v :: vs, turns, w, h, hvs, hturns => by
    have hv : v < g.size := hvs v List.mem_cons_self
    obtain ⟨⟨w', left, result⟩, hguarded, hagrees⟩ := guardedResolve_spec h hv hturns
    rw [guardedEach, hguarded, ok_bind, resolveEach]
    cases result with
    | error vertices =>
      have hresolve : w.resolve g v = (w', some vertices) := hagrees
      rw [hresolve]
      rfl
    | ok order =>
      obtain ⟨hresolve, hleft⟩ := hagrees
      have hdone := (resolve_spec h hv).2
      rw [hresolve] at hdone ⊢
      exact guardedEach_spec (hdone rfl).settled (fun u hu => hvs u (List.mem_cons_of_mem v hu)) hleft

/-- Orders that are there are read. -/
theorem mapM_readOrder {w : Walk} :
    ∀ {vs : List Nat}, (∀ v ∈ vs, ∃ k, w.marks[v]? = some (.resolved k)) →
      vs.mapM w.readOrder = .ok (vs.map w.orderD)
  | [], _ => rfl
  | v :: vs, h => by
    obtain ⟨k, hk⟩ := h v List.mem_cons_self
    have hread : w.readOrder v = .ok (w.orderD v) := by
      rw [readOrder, order?_eq hk, orderD_of_resolved hk]
    rw [List.mapM_cons, hread, ok_bind,
      mapM_readOrder fun u hu => h u (List.mem_cons_of_mem v hu), ok_bind]
    rfl

end Walk

namespace Graph

open Walk

/-- **A pass never leaves its domain.** Whatever the graph and the list of its vertices, a pass with
every access guarded comes to no fault and to the same end: no mark is missing, no loop runs out of
frames, every vertex that closes a cycle is on the stack, no order reaches the number of vertices, and
every listed vertex has an order when no cycle was met. All loops together end after as many turns as
the graph has vertices and edges. -/
theorem pass_stays_in_domain {α : Type} {g : Graph α} {vs : List Nat}
    (hvs : ∀ v ∈ vs, g.contains v = true) :
    (∃ w vertices, g.pass vs = (w, some vertices) ∧ g.guardedPass vs = .ok (w, .error vertices)) ∨
    (∃ w, g.pass vs = (w, none) ∧ g.guardedPass vs = .ok (w, .ok (vs.map w.orderD))) := by
  have hlt : ∀ v ∈ vs, v < g.size := fun v hv => of_decide_eq_true (hvs v hv)
  have hguarded : guardedEach g (g.size - 1) (g.size + g.edgeCount) (Walk.init g.size) vs
      = .ok (g.pass vs) := guardedEach_spec .init hlt (work_init g).le
  rw [guardedPass, hguarded, ok_bind]
  rcases pass_cases hlt with ⟨w, vertices, hpass, -⟩ | ⟨w, hpass, hdone⟩
  · rw [hpass]
    exact Or.inl ⟨w, vertices, rfl, rfl⟩
  · rw [hpass]
    refine Or.inr ⟨w, rfl, ?_⟩
    dsimp only
    rw [mapM_readOrder hdone.resolved]
    rfl

/-- The diamond passes, and the lasso comes to its cycle. -/
theorem diamond_and_lasso_guarded :
    (∃ w, diamond.pass [2, 0, 3, 1, 2] = (w, none) ∧
      diamond.guardedPass [2, 0, 3, 1, 2] = .ok (w, .ok [1, 2, 0, 1, 1])) ∧
    ∃ w, lasso.pass [0, 1, 2] = (w, some [1, 2, 1]) ∧
      lasso.guardedPass [0, 1, 2] = .ok (w, .error [1, 2, 1]) := by
  have hlisted : ∀ v ∈ [2, 0, 3, 1, 2], diamond.contains v = true := by decide
  have hlisted' : ∀ v ∈ [0, 1, 2], lasso.contains v = true := by decide
  have hdiamond : diamond.pass [2, 0, 3, 1, 2]
      = (⟨#[.resolved 2, .resolved 1, .resolved 1, .resolved 0], [],
          [(0, 2), (1, 1), (2, 1), (3, 0)]⟩, none) := by cbv
  have hlasso : (lasso.pass [0, 1, 2]).2 = some [1, 2, 1] := by cbv
  constructor
  · rcases pass_stays_in_domain hlisted with ⟨w, vertices, hpass, -⟩ | ⟨w, hpass, hguarded⟩
    · cases hdiamond.symm.trans hpass
    · cases hdiamond.symm.trans hpass
      exact ⟨_, hdiamond, hguarded⟩
  · rcases pass_stays_in_domain hlisted' with ⟨w, vertices, hpass, hguarded⟩ | ⟨w, hpass, -⟩
    · rw [hpass] at hlasso
      obtain rfl := Option.some.inj hlasso
      exact ⟨w, hpass, hguarded⟩
    · rw [hpass] at hlasso
      cases hlasso

-- No limit of the guarded pass can be any lower: a chain of 3 vertices and 2 edges takes 5 turns, and
-- its first vertex has an order of 2.
example :
    let chain := [(0, 1), (1, 2)].foldl (fun g e => g.link e.1 e.2)
      (["a", "b", "c"].foldl (fun g name => g.addVertex name ()) empty)
    guardedEach chain 2 4 (Walk.init 3) [0] = .error .turnsSpent ∧
    guardedEach chain 1 5 (Walk.init 3) [0] = .error (.tooHigh 2) := by cbv

end Graph

end Lifecycle
