import Lifecycle.Order.Walk
import Lifecycle.Proofs.Graph.Recursion

/-!
# The walk finds what plain recursion finds

A `Walk` reads every edge once, keeps its path on a stack and remembers resolved orders. Its result
is that of `Graph.recursiveOrder`, which does neither.

* `FrameReads`: a frame has read the first dependencies of its vertex. The one that it read last may have
  a frame of its own; all others are resolved, and **the order of the frame is one more than the highest of
  theirs**.
* `Walk.Inv` is the invariant of a pass: the vertices on the stack are those in progress, every frame is
  such (`FrameInv`), and **a resolved order is a depth**.
* `cycleAhead` is the cycle that plain recursion would run into if it took over from the stack.
  A step does not change it (`step_spec`): a resolved dependency has a depth, so there is no cycle
  below it to miss, although the recursion would read it again on a longer path.
* `Later` says what a pass never undoes.
* **`resolveEach_spec`**: a pass over a list ends with the first cycle that plain recursion finds from
  its entries, and resolves every entry if there is none.
-/

namespace Lifecycle.Walk

open Lifecycle.Graph

variable {α : Type} {g : Graph α}

/-! ## What a pass never undoes -/

/-- Some marks later in a pass: no vertex is unvisited again, and an order stays. -/
structure Later (marks marks' : Array Mark) : Prop where
  unvisited : ∀ v : Nat, marks'[v]? = some .unvisited → marks[v]? = some .unvisited
  resolved : ∀ v k : Nat, marks[v]? = some (.resolved k) → marks'[v]? = some (.resolved k)

theorem Later.refl (marks : Array Mark) : Later marks marks := ⟨fun _ h => h, fun _ _ h => h⟩

theorem Later.trans {m₁ m₂ m₃ : Array Mark} (h : Later m₁ m₂) (h' : Later m₂ m₃) : Later m₁ m₃ :=
  ⟨fun v hv => h.unvisited v (h'.unvisited v hv), fun v k hv => h'.resolved v k (h.resolved v k hv)⟩

theorem getD_of_getElem? {marks : Array Mark} {v : Nat} {m : Mark} (h : marks[v]? = some m) :
    marks.getD v (.resolved 0) = m := by
  rw [Array.getD_eq_getD_getElem?, h]
  rfl

theorem getElem?_set_self {marks : Array Mark} {v : Nat} {m m' : Mark} (hv : marks[v]? = some m') :
    (marks.setIfInBounds v m)[v]? = some m := by
  obtain ⟨hlt, -⟩ := Array.getElem?_eq_some_iff.mp hv
  rw [Array.getElem?_setIfInBounds_self, if_pos hlt]

/-- A vertex without an order may be marked as in progress or resolved. -/
theorem Later.set {marks : Array Mark} {v : Nat} {m : Mark} (hm : m ≠ .unvisited)
    (hv : ∀ k, marks[v]? ≠ some (.resolved k)) : Later marks (marks.setIfInBounds v m) where
  unvisited := fun u hu => by
    rw [Array.getElem?_setIfInBounds] at hu
    split at hu
    · split at hu
      · exact absurd (Option.some.inj hu) hm
      · exact nomatch hu
    · exact hu
  resolved := fun u k hu => by
    rw [Array.getElem?_setIfInBounds, if_neg]
    · exact hu
    · rintro rfl
      exact hv k hu

/-! ## Frames -/

/-- What a frame has read: the dependencies `done`, which have the orders `orders`, and then `inner`, if
there is a frame for it directly within this one. -/
structure FrameReads (g : Graph α) (marks : Array Mark) (inner : Option Nat) (f : Frame)
    (done orders : List Nat) : Prop where
  split : g.dependencies f.vertex = done ++ inner.toList ++ f.rest
  resolved : List.Forall₂ (fun d k => marks[d]? = some (.resolved k)) done orders
  order : f.order = orders.max?.elim 0 (· + 1)

/-- A frame has read the first dependencies of its vertex, and its order is one more than the highest of
theirs. -/
def FrameInv (g : Graph α) (marks : Array Mark) (inner : Option Nat) (f : Frame) : Prop :=
  ∃ done orders, FrameReads g marks inner f done orders

/-- The highest of some orders, after one more was read. -/
theorem highest_concat (orders : List Nat) (k : Nat) :
    (orders ++ [k]).max?.elim 0 (· + 1) = max (orders.max?.elim 0 (· + 1)) (k + 1) := by
  cases orders with
  | nil => simp
  | cons n ns =>
    rw [List.cons_append, List.max?_cons', List.max?_cons', List.foldl_append]
    exact (Nat.add_max_add_right _ _ _).symm

/-- Of two lists entry by entry, an entry of the one has one in the other. -/
theorem exists_mem_of_forall₂ {β γ : Type} {r : β → γ → Prop} {xs : List β} {ys : List γ}
    (h : List.Forall₂ r xs ys) : (∀ x ∈ xs, ∃ y ∈ ys, r x y) ∧ ∀ y ∈ ys, ∃ x ∈ xs, r x y := by
  induction h with
  | nil => simp
  | cons hxy _ ih => simp_all

section FrameInv

variable {marks marks' : Array Mark} {inner : Option Nat} {f : Frame} {v d k order : Nat}
  {ds : List Nat}

theorem FrameInv.later (h : FrameInv g marks inner f) (hl : Later marks marks') :
    FrameInv g marks' inner f := by
  obtain ⟨done, orders, h⟩ := h
  exact ⟨done, orders, h.split, h.resolved.imp fun d k hd => hl.resolved d k hd, h.order⟩

theorem FrameInv.enter (v : Nat) : FrameInv g marks none (Frame.enter g v) := ⟨[], [], rfl, .nil, rfl⟩

/-- The next dependency is taken up. -/
theorem FrameInv.descend (h : FrameInv g marks none ⟨v, d :: ds, order⟩) :
    FrameInv g marks (some d) ⟨v, ds, order⟩ := by
  obtain ⟨done, orders, h⟩ := h
  exact ⟨done, orders, by simpa using h.split, h.resolved, h.order⟩

/-- The dependency that was taken up is resolved and raises the frame. -/
theorem FrameInv.raise (h : FrameInv g marks (some d) f) (hd : marks[d]? = some (.resolved k)) :
    FrameInv g marks none (f.raise k) := by
  obtain ⟨done, orders, h⟩ := h
  refine ⟨done ++ [d], orders ++ [k], h.split.trans (by simp [Frame.raise]),
    List.rel_append h.resolved (.cons hd .nil), ?_⟩
  rw [highest_concat, ← h.order]
  rfl

theorem FrameInv.mem_dependencies (h : FrameInv g marks inner f) (hd : d ∈ inner ∨ d ∈ f.rest) :
    d ∈ g.dependencies f.vertex := by
  obtain ⟨done, orders, h⟩ := h
  rw [h.split, List.append_assoc, List.mem_append, List.mem_append, Option.mem_toList]
  exact Or.inr hd

/-- A dependency is still to be read, or it is resolved below the order of the frame. -/
theorem FrameInv.read (h : FrameInv g marks inner f) (hd : d ∈ g.dependencies f.vertex) :
    d ∈ f.rest ∨ d ∈ inner ∨ ∃ k, k < f.order ∧ marks[d]? = some (.resolved k) := by
  obtain ⟨done, orders, h⟩ := h
  rw [h.split, List.append_assoc, List.mem_append, List.mem_append, Option.mem_toList] at hd
  rcases hd with hd | hd | hd
  · obtain ⟨k, hk, hm⟩ := (exists_mem_of_forall₂ h.resolved).1 d hd
    refine Or.inr (Or.inr ⟨k, ?_, hm⟩)
    obtain ⟨n, hn⟩ := Option.isSome_iff_exists.mp (List.isSome_max?_of_mem hk)
    rw [h.order, hn]
    exact Nat.lt_succ_of_le ((List.max?_eq_some_iff.mp hn).2 k hk)
  · exact Or.inr (Or.inl hd)
  · exact Or.inl hd

/-- The order of a frame is 0 or that of a resolved dependency raised it. -/
theorem FrameInv.attained (h : FrameInv g marks inner f) : f.order = 0 ∨
    ∃ d ∈ g.dependencies f.vertex, ∃ n, f.order = n + 1 ∧ marks[d]? = some (.resolved n) := by
  obtain ⟨done, orders, h⟩ := h
  cases hmax : orders.max? with
  | none => exact Or.inl (by rw [h.order, hmax]; rfl)
  | some n =>
    obtain ⟨d, hd, hm⟩ := (exists_mem_of_forall₂ h.resolved).2 n (List.max?_eq_some_iff.mp hmax).1
    refine Or.inr ⟨d, ?_, n, by rw [h.order, hmax]; rfl, hm⟩
    rw [h.split, List.append_assoc]
    exact List.mem_append_left _ hd

/-- A frame that has read all dependencies has the depth of its vertex. -/
theorem FrameInv.hasDepth (h : FrameInv g marks none ⟨v, [], order⟩)
    (hmarks : ∀ d k : Nat, marks[d]? = some (.resolved k) → g.HasDepth d k) : g.HasDepth v order := by
  refine .of_related (fun d hd => ?_) ?_
  · rcases h.read hd with hd | hd | ⟨k, hk, hm⟩
    · exact absurd hd List.not_mem_nil
    · exact nomatch hd
    · exact ⟨k, hk, hmarks d k hm⟩
  · rcases h.attained with h0 | ⟨d, hd, n, hn, hm⟩
    · exact Or.inl h0
    · exact Or.inr ⟨d, hd, n, hn, hmarks d n hm⟩

end FrameInv

/-! ## Stacks -/

/-- The vertices on a stack, outermost first: the path that the walk went down. -/
def stackPath (stack : List Frame) : List Nat := (stack.map Frame.vertex).reverse

@[simp] theorem stackPath_nil : stackPath [] = [] := rfl

@[simp] theorem stackPath_cons (f : Frame) (fs : List Frame) :
    stackPath (f :: fs) = stackPath fs ++ [f.vertex] := by simp [stackPath]

@[simp] theorem stackPath_raiseTop (k : Nat) (fs : List Frame) :
    stackPath (raiseTop k fs) = stackPath fs := by cases fs <;> rfl

/-- Every frame has gone down to the frame within it, and the innermost one to `inner`. -/
def StackInv (g : Graph α) (marks : Array Mark) : Option Nat → List Frame → Prop
  | _, [] => True
  | inner, f :: fs => FrameInv g marks inner f ∧ StackInv g marks (some f.vertex) fs

theorem StackInv.later {marks marks' : Array Mark} (hl : Later marks marks') :
    ∀ {inner : Option Nat} {stack : List Frame},
      StackInv g marks inner stack → StackInv g marks' inner stack
  | _, [], _ => trivial
  | _, _ :: _, h => ⟨h.1.later hl, StackInv.later hl h.2⟩

theorem StackInv.raiseTop {marks : Array Mark} {d k : Nat} {stack : List Frame}
    (h : StackInv g marks (some d) stack) (hd : marks[d]? = some (.resolved k)) :
    StackInv g marks none (raiseTop k stack) := by
  cases stack with
  | nil => trivial
  | cons f fs => exact ⟨h.1.raise hd, h.2⟩

/-- The stack holds a path of dependencies. -/
theorem StackInv.isPath {marks : Array Mark} :
    ∀ {inner : Option Nat} {stack : List Frame},
      StackInv g marks inner stack → g.IsPath (stackPath stack ++ inner.toList)
  | none, [], _ => .nil
  | some d, [], _ => .singleton d
  | inner, f :: fs, h => by
    have hpath : g.IsPath (stackPath fs ++ [f.vertex]) := StackInv.isPath h.2
    rw [stackPath_cons]
    cases inner with
    | none => rw [Option.toList_none, List.append_nil]; exact hpath
    | some d => exact Chain.isChain_snoc hpath (h.1.mem_dependencies (Or.inl rfl))

/-! ## The invariant of a pass -/

/-- **The invariant of a pass**, with the dependency `inner` that the innermost frame is about to go
down to. -/
structure Inv (g : Graph α) (inner : Option Nat) (w : Walk) : Prop where
  size : w.marks.size = g.size
  inProgress : ∀ v : Nat, w.marks[v]? = some .inProgress ↔ v ∈ stackPath w.stack
  nodup : (stackPath w.stack).Nodup
  stack : StackInv g w.marks inner w.stack
  depth : ∀ v k : Nat, w.marks[v]? = some (.resolved k) → g.HasDepth v k

theorem Inv.init : Inv g none (init g.size) where
  size := by simp [Walk.init]
  inProgress := fun v => by simp [Walk.init, Array.getElem?_replicate]
  nodup := List.nodup_nil
  stack := trivial
  depth := fun v k h => by simp [Walk.init, Array.getElem?_replicate] at h

theorem Inv.descend {marks : Array Mark} {v d order : Nat} {ds : List Nat} {fs : List Frame}
    {finished : List (Nat × Nat)} (h : Inv g none ⟨marks, ⟨v, d :: ds, order⟩ :: fs, finished⟩) :
    Inv g (some d) ⟨marks, ⟨v, ds, order⟩ :: fs, finished⟩ where
  size := h.size
  inProgress := h.inProgress
  nodup := h.nodup
  stack := ⟨h.stack.1.descend, h.stack.2⟩
  depth := h.depth

/-- The dependency that is taken up is resolved already. -/
theorem Inv.read {marks : Array Mark} {v d k order : Nat} {ds : List Nat} {fs : List Frame}
    {finished : List (Nat × Nat)} (h : Inv g (some d) ⟨marks, ⟨v, ds, order⟩ :: fs, finished⟩)
    (hd : marks[d]? = some (.resolved k)) :
    Inv g none ⟨marks, Frame.raise ⟨v, ds, order⟩ k :: fs, finished⟩ where
  size := h.size
  inProgress := h.inProgress
  nodup := h.nodup
  stack := h.stack.raiseTop hd
  depth := h.depth

/-- A vertex that is not in progress is not on the stack. -/
theorem Inv.not_mem_stackPath {inner : Option Nat} {w : Walk} {v : Nat} {m : Mark}
    (h : Inv g inner w) (hv : w.marks[v]? = some m) (hm : m ≠ .inProgress) :
    v ∉ stackPath w.stack := fun hmem =>
  hm (Option.some.inj (hv.symm.trans ((h.inProgress v).mpr hmem)))

/-- The dependency that is taken up was not visited before, and the walk goes down to it. -/
theorem Inv.push {w : Walk} {d : Nat} (h : Inv g (some d) w)
    (hd : w.marks[d]? = some .unvisited) :
    Inv g none (push g w d) ∧ Later w.marks (push g w d).marks := by
  have hnot : d ∉ stackPath w.stack := h.not_mem_stackPath hd nofun
  have hlater : Later w.marks (w.marks.setIfInBounds d .inProgress) :=
    .set nofun fun k hk => by rw [hd] at hk; exact nomatch hk
  refine ⟨⟨?_, fun u => ?_, ?_, ⟨.enter d, h.stack.later hlater⟩, fun u k hu => ?_⟩, hlater⟩
  · simpa [Walk.push] using h.size
  · show (w.marks.setIfInBounds d .inProgress)[u]? = _ ↔ u ∈ stackPath (Frame.enter g d :: w.stack)
    rw [stackPath_cons, List.mem_append, List.mem_singleton, ← h.inProgress u]
    by_cases hu : u = d
    · subst hu
      simp [getElem?_set_self hd, Frame.enter]
    · rw [Array.getElem?_setIfInBounds_ne (Ne.symm hu)]
      simp [hu, Frame.enter]
  · show (stackPath (Frame.enter g d :: w.stack)).Nodup
    rw [stackPath_cons, ← List.concat_eq_append, List.nodup_concat]
    exact ⟨hnot, h.nodup⟩
  · by_cases hne : u = d
    · subst hne
      exact absurd ((getElem?_set_self hd).symm.trans hu) nofun
    · exact h.depth u k (by rwa [Walk.push, Array.getElem?_setIfInBounds_ne (Ne.symm hne)] at hu)

/-- The innermost frame has read all and is closed. -/
theorem Inv.close {marks : Array Mark} {v order : Nat} {fs : List Frame}
    {finished : List (Nat × Nat)} (h : Inv g none ⟨marks, ⟨v, [], order⟩ :: fs, finished⟩) :
    Inv g none ⟨marks.setIfInBounds v (.resolved order), raiseTop order fs, (v, order) :: finished⟩ ∧
      Later marks (marks.setIfInBounds v (.resolved order)) := by
  have hv : marks[v]? = some .inProgress := (h.inProgress v).mpr (by simp)
  have hlater : Later marks (marks.setIfInBounds v (.resolved order)) :=
    .set nofun fun k hk => by rw [hv] at hk; exact nomatch hk
  have hstack := h.nodup
  rw [stackPath_cons, ← List.concat_eq_append, List.nodup_concat] at hstack
  obtain ⟨hnot, hnodup⟩ := hstack
  refine ⟨⟨?_, fun u => ?_, ?_, (h.stack.2.later hlater).raiseTop (getElem?_set_self hv),
    fun u k hu => ?_⟩, hlater⟩
  · simpa using h.size
  · by_cases hu : u = v
    · subst hu
      simp [getElem?_set_self hv, hnot]
    · have := h.inProgress u
      simp only [stackPath_cons, List.mem_append, List.mem_singleton, hu, or_false] at this
      simp only [Array.getElem?_setIfInBounds_ne (Ne.symm hu), stackPath_raiseTop, this]
  · simpa using hnodup
  · by_cases hne : u = v
    · subst hne
      obtain rfl : order = k := by
        have := (getElem?_set_self hv).symm.trans hu
        simpa using this
      exact h.stack.1.hasDepth h.depth
    · exact h.depth u k (by simpa only [Array.getElem?_setIfInBounds_ne (Ne.symm hne)] using hu)

/-- A dependency that a frame is to read is marked somehow. -/
theorem Inv.exists_mark {marks : Array Mark} {v d order : Nat} {ds : List Nat} {fs : List Frame}
    {finished : List (Nat × Nat)} (h : Inv g none ⟨marks, ⟨v, d :: ds, order⟩ :: fs, finished⟩) :
    ∃ m, marks[d]? = some m := by
  have hlt : d < g.size := dependency_lt (h.stack.1.mem_dependencies (Or.inr List.mem_cons_self))
  have hsize : marks.size = g.size := h.size
  exact ⟨_, Array.getElem?_eq_getElem (by rw [hsize]; exact hlt)⟩

/-! ## Plain recursion from a stack -/

/-- The cycle that plain recursion runs into when it takes over from a stack, if it does. -/
def cycleAhead (g : Graph α) : List Frame → Option (List Nat)
  | [] => none
  | f :: fs => (g.cycleOver? (stackPath (f :: fs)) f.rest).or (cycleAhead g fs)

@[simp] theorem cycleAhead_raiseTop (k : Nat) (fs : List Frame) :
    cycleAhead g (raiseTop k fs) = cycleAhead g fs := by
  cases fs <;> rfl

/-- The cycle read off the stack is the one read off the path. -/
theorem closeCycle_eq {stack : List Frame} {d : Nat} (hn : (stackPath stack).Nodup)
    (hd : d ∈ stackPath stack) :
    closeCycle stack d = (stackPath stack).dropWhile (· != d) ++ [d] := by
  have hmem : d ∈ stack.map Frame.vertex := List.mem_reverse.mp hd
  -- `d` stands on the stack once, so the frames within it end where the path comes to `d`
  obtain ⟨inner, outer, hsplit, hinner⟩ := List.eq_append_cons_of_mem hmem
  have hpath : stackPath stack = outer.reverse ++ d :: inner.reverse := by
    rw [stackPath, hsplit]
    simp
  rw [hpath] at hn ⊢
  have houter : d ∉ outer.reverse := fun h =>
    (List.nodup_append.mp hn).2.2 d h d List.mem_cons_self rfl
  have htake : (inner ++ d :: outer).takeWhile (· != d) = inner := by
    rw [List.takeWhile_append_of_pos fun u hu => by simpa using fun e : u = d => hinner (e ▸ hu)]
    simp
  rw [closeCycle, hsplit, htake, dropWhile_ne_append houter]

theorem cycleAhead_of_mem {v d order : Nat} {ds : List Nat} {fs : List Frame}
    (hd : d ∈ stackPath (⟨v, d :: ds, order⟩ :: fs)) :
    cycleAhead g (⟨v, d :: ds, order⟩ :: fs)
      = some ((stackPath (⟨v, d :: ds, order⟩ :: fs)).dropWhile (· != d) ++ [d]) := by
  rw [cycleAhead, cycleOver?_of_mem hd, Option.some_or]

/-- A dependency off the path is searched first, and then the rest of the stack. -/
theorem cycleAhead_of_not_mem {v d order : Nat} {ds : List Nat} {fs : List Frame}
    (hd : d ∉ stackPath (⟨v, ds, order⟩ :: fs)) :
    cycleAhead g (⟨v, d :: ds, order⟩ :: fs)
      = cycleAhead g (Frame.enter g d :: ⟨v, ds, order⟩ :: fs) := by
  have hsame : stackPath (⟨v, d :: ds, order⟩ :: fs) = stackPath (⟨v, ds, order⟩ :: fs) := by
    rw [stackPath_cons, stackPath_cons]
  rw [cycleAhead, hsame, cycleOver?_of_not_mem hd, Option.or_assoc, cycleAhead, cycleAhead,
    stackPath_cons (Frame.enter g d)]
  rfl

/-- Below a dependency that is resolved there is no cycle to find. -/
theorem cycleAhead_of_resolved {marks : Array Mark} {v d k order : Nat} {ds : List Nat}
    {fs : List Frame} {finished : List (Nat × Nat)}
    (h : Inv g (some d) ⟨marks, ⟨v, ds, order⟩ :: fs, finished⟩)
    (hd : marks[d]? = some (.resolved k)) :
    cycleAhead g (⟨v, d :: ds, order⟩ :: fs) = cycleAhead g (⟨v, ds, order⟩ :: fs) := by
  have hnot : d ∉ stackPath (⟨v, ds, order⟩ :: fs) := h.not_mem_stackPath hd nofun
  have hnodup : (stackPath (⟨v, ds, order⟩ :: fs) ++ [d]).Nodup := by
    rw [← List.concat_eq_append, List.nodup_concat]
    exact ⟨hnot, h.nodup⟩
  -- the recursion would go down to `d` again, by the path on the stack
  rw [cycleAhead_of_not_mem hnot, cycleAhead, stackPath_cons (Frame.enter g d)]
  show (g.cycleOver? (stackPath (⟨v, ds, order⟩ :: fs) ++ [d]) (g.dependencies d)).or _ = _
  rw [cycleOver?_of_hasDepth (h.depth d k hd) h.stack.isPath hnodup, Option.none_or]

/-! ## Steps and runs -/

/-- What one step of a pass leads to. -/
structure StepSpec (g : Graph α) (w w' : Walk) : Prop where
  inv : Inv g none w'
  later : Later w.marks w'.marks
  ahead : cycleAhead g w'.stack = cycleAhead g w.stack

/-- **A step keeps the invariant and the cycle ahead**, and a cycle it finds is the one ahead. -/
theorem step_spec {w : Walk} (h : Inv g none w) :
    match w.step g with
    | .rest w' => w' = w ∧ w.stack = []
    | .next w' => StepSpec g w w'
    | .cycle _ vertices => cycleAhead g w.stack = some vertices := by
  obtain ⟨marks, stack, finished⟩ := w
  match stack with
  | [] => exact ⟨rfl, rfl⟩
  | ⟨v, [], order⟩ :: fs =>
    refine ⟨h.close.1, h.close.2, ?_⟩
    show cycleAhead g (raiseTop order fs) = cycleAhead g (⟨v, [], order⟩ :: fs)
    rw [cycleAhead_raiseTop, cycleAhead, cycleOver?_nil, Option.none_or]
  | ⟨v, d :: ds, order⟩ :: fs =>
    obtain ⟨m, hm⟩ := h.exists_mark
    simp only [step, getD_of_getElem? hm]
    cases m with
    | resolved k =>
      exact ⟨h.descend.read hm, .refl marks, (cycleAhead_of_resolved h.descend hm).symm⟩
    | inProgress =>
      have hd : d ∈ stackPath (⟨v, d :: ds, order⟩ :: fs) := (h.inProgress d).mp hm
      show _ = some (closeCycle (⟨v, d :: ds, order⟩ :: fs) d)
      rw [cycleAhead_of_mem hd, closeCycle_eq h.nodup hd]
    | unvisited =>
      have hnot : d ∉ stackPath (⟨v, ds, order⟩ :: fs) := h.descend.not_mem_stackPath hm nofun
      exact ⟨(h.descend.push hm).1, (h.descend.push hm).2, (cycleAhead_of_not_mem hnot).symm⟩

/-- A pass between two starts: nothing is in progress. -/
structure Settled (g : Graph α) (w : Walk) : Prop where
  inv : Inv g none w
  stack : w.stack = []

/-- **A run ends with the cycle ahead**, or settled. -/
theorem run_spec {w : Walk} (h : Inv g none w) :
    (run g w).2 = cycleAhead g w.stack ∧
      ((run g w).2 = none → Settled g (run g w).1 ∧ Later w.marks (run g w).1.marks) := by
  fun_induction run g w with
  | case1 w w' hstep =>
    have hspec := step_spec h
    rw [hstep] at hspec
    obtain ⟨rfl, hstack⟩ := hspec
    rw [hstack]
    exact ⟨rfl, fun _ => ⟨⟨h, hstack⟩, .refl _⟩⟩
  | case2 w w' vertices hstep =>
    have hspec := step_spec h
    rw [hstep] at hspec
    exact ⟨hspec.symm, nofun⟩
  | case3 w w' hstep ih =>
    have hspec := step_spec h
    rw [hstep] at hspec
    obtain ⟨hcycle, hdone⟩ := ih hspec.inv
    refine ⟨hcycle.trans hspec.ahead, fun hnone => ?_⟩
    obtain ⟨hsettled, hlater⟩ := hdone hnone
    exact ⟨hsettled, hspec.later.trans hlater⟩

/-! ## Passes -/

theorem Settled.init : Settled g (init g.size) := ⟨.init, rfl⟩

/-- In a settled pass a vertex is unvisited or resolved. -/
theorem Settled.mark {w : Walk} {v : Nat} (h : Settled g w) (hv : v < g.size) :
    w.marks[v]? = some .unvisited ∨ ∃ k, w.marks[v]? = some (.resolved k) := by
  have hlt : v < w.marks.size := by rw [h.inv.size]; exact hv
  have hmark : w.marks[v]? = some w.marks[v] := Array.getElem?_eq_getElem hlt
  cases hm : w.marks[v] with
  | unvisited => exact Or.inl (by rw [hmark, hm])
  | inProgress =>
    have hmem := (h.inv.inProgress v).mp (by rw [hmark, hm])
    rw [h.stack] at hmem
    exact absurd hmem List.not_mem_nil
  | resolved k => exact Or.inr ⟨k, by rw [hmark, hm]⟩

/-- A settled pass may go down to any vertex that was not visited before. -/
theorem Settled.push {w : Walk} {v : Nat} (h : Settled g w) (hv : w.marks[v]? = some .unvisited) :
    Inv g none (push g w v) ∧ Later w.marks (push g w v).marks := by
  -- no frame is above `v`, so nothing says that `v` is a dependency
  have hin : Inv g (some v) w :=
    ⟨h.inv.size, h.inv.inProgress, h.inv.nodup, by rw [h.stack]; trivial, h.inv.depth⟩
  exact hin.push hv

/-- What a resolved pass leaves behind: it is settled, nothing is undone, and the vertices of a list
are resolved. -/
structure Resolved (g : Graph α) (w w' : Walk) (vs : List Nat) : Prop where
  settled : Settled g w'
  later : Later w.marks w'.marks
  resolved : ∀ v ∈ vs, ∃ k, w'.marks[v]? = some (.resolved k)

/-- **Resolving a vertex ends with the cycle that plain recursion finds from it**, or resolves it. -/
theorem resolve_spec {w : Walk} {v : Nat} (h : Settled g w) (hv : v < g.size) :
    (w.resolve g v).2 = g.cycleFrom? v ∧
      ((w.resolve g v).2 = none → Resolved g w (w.resolve g v).1 [v]) := by
  rcases h.mark hv with hm | ⟨k, hm⟩
  · have hmark : w.mark v = .unvisited := getD_of_getElem? hm
    obtain ⟨hinv, hlater⟩ := h.push hm
    obtain ⟨hcycle, hdone⟩ := run_spec hinv
    simp only [resolve, hmark]
    refine ⟨?_, fun hnone => ?_⟩
    · have hstack : (push g w v).stack = [Frame.enter g v] := by rw [push, h.stack]
      rw [hcycle, hstack, cycleAhead, cycleAhead, Option.or_none]
      rfl
    · obtain ⟨hsettled, hlater'⟩ := hdone hnone
      -- `v` was marked at the start, and a settled pass knows no mark but an order
      refine ⟨hsettled, hlater.trans hlater', fun u hu => ?_⟩
      obtain rfl := List.mem_singleton.mp hu
      refine (hsettled.mark hv).resolve_left fun hun => ?_
      have := hlater'.unvisited u hun
      rw [push, getElem?_set_self hm] at this
      exact nomatch this
  · have hmark : w.mark v = .resolved k := getD_of_getElem? hm
    simp only [resolve, hmark]
    refine ⟨(cycleFrom?_eq_none.mpr ⟨k, h.inv.depth v k hm⟩).symm, fun _ => ⟨h, .refl _, ?_⟩⟩
    intro u hu
    obtain rfl := List.mem_singleton.mp hu
    exact ⟨k, hm⟩

/-- **A pass over a list ends with the first cycle that plain recursion finds from an entry**, or
resolves all entries. -/
theorem resolveEach_spec :
    ∀ {vs : List Nat} {w : Walk}, Settled g w → (∀ v ∈ vs, v < g.size) →
      (w.resolveEach g vs).2 = vs.findSome? g.cycleFrom? ∧
        ((w.resolveEach g vs).2 = none → Resolved g w (w.resolveEach g vs).1 vs)
  | [], w, h, _ => ⟨rfl, fun _ => ⟨h, .refl _, fun _ hv => absurd hv List.not_mem_nil⟩⟩
  | v :: vs, w, h, hvs => by
    obtain ⟨hcycle, hdone⟩ := resolve_spec h (hvs v List.mem_cons_self)
    obtain ⟨w', found, hres⟩ : ∃ w' found, w.resolve g v = (w', found) := ⟨_, _, rfl⟩
    rw [hres] at hcycle hdone
    cases found with
    | some vertices =>
      rw [resolveEach, hres, List.findSome?_cons, ← hcycle]
      exact ⟨rfl, nofun⟩
    | none =>
      -- the marks of `v` go on to the rest of the list, and its order stays
      obtain ⟨hsettled, hlater, hv⟩ := hdone rfl
      obtain ⟨hcycle', hdone'⟩ :=
        resolveEach_spec hsettled fun u hu => hvs u (List.mem_cons_of_mem v hu)
      rw [resolveEach, hres, List.findSome?_cons, ← hcycle]
      refine ⟨hcycle', fun hnone => ?_⟩
      obtain ⟨hsettled', hlater', hvs'⟩ := hdone' hnone
      refine ⟨hsettled', hlater.trans hlater', fun u hu => ?_⟩
      rcases List.mem_cons.mp hu with rfl | hu
      · obtain ⟨k, hk⟩ := hv u (by simp)
        exact ⟨k, hlater'.resolved u k hk⟩
      · exact hvs' u hu

end Lifecycle.Walk
