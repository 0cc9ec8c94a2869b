import Lifecycle.Graph.Error
import Lifecycle.Graph.Marks

/-!
# Resolving orders

The order of a vertex is 0 without dependencies and one more than the highest order of its
dependencies otherwise. A `Walk` resolves orders depth first, on demand, and remembers them: each
vertex carries a `Mark`, and the vertices whose dependencies are being read stand on an explicit
stack of `Frame`s, innermost first, so that a chain of many thousands of vertices is no deeper a
recursion than a short one.

* `Walk.step` does one thing: it reads the next dependency of the innermost frame, or closes that
  frame when all are read. A dependency that is already resolved raises the frame's order; an
  unvisited one gets a frame of its own; one that is still in progress stands on the stack, and the
  frames above it **are a cycle** (`closeCycle`).
* `Walk.run` steps until the stack is empty or a cycle is found. It ends because a step marks an
  unvisited vertex or shortens what is left to read (`Walk.measure_step`).
* `Walk.resolve` starts a run at a vertex, and `Walk.resolveEach` does so for a list of them with
  one table of marks, so an edge is read once in the whole pass.

`Walk.finished` lists what was resolved, last first: the trail of the pass.
-/

namespace Lifecycle

/-- How far a pass is with a vertex. -/
inductive Mark where
  | unvisited
  | inProgress
  | resolved (order : Nat)
  deriving Repr, DecidableEq, Inhabited

/-- A vertex in progress: the dependencies still to read, and the order so far. -/
structure Frame where
  vertex : Nat
  rest : List Nat
  order : Nat
  deriving Repr, DecidableEq

namespace Frame

variable {α : Type}

/-- The frame of a vertex of which no dependency was read. -/
def enter (g : Graph α) (v : Nat) : Frame := ⟨v, g.dependencies v, 0⟩

/-- Take a dependency of the given order into account. -/
def raise (f : Frame) (order : Nat) : Frame := { f with order := max f.order (order + 1) }

end Frame

/-- The state of a pass. Between two starts the stack is empty. -/
structure Walk where
  marks : Array Mark
  stack : List Frame
  finished : List (Nat × Nat)
  deriving Repr, DecidableEq

/-- What a step of a pass leads to. -/
inductive Walk.Step where
  /-- There is nothing left to do. -/
  | rest (w : Walk)
  /-- The pass goes on. -/
  | next (w : Walk)
  /-- The pass ends with the vertices of a closed cycle. -/
  | cycle (w : Walk) (vertices : List Nat)

/-- The cycle that `d` closes, given the stack it stands on: from `d` outwards to the innermost
frame, and back to `d`. -/
def closeCycle (stack : List Frame) (d : Nat) : List Nat :=
  d :: ((stack.map Frame.vertex).takeWhile (· != d)).reverse ++ [d]

/-- Raise the innermost frame. -/
def raiseTop (order : Nat) : List Frame → List Frame
  | [] => []
  | f :: fs => f.raise order :: fs

namespace Walk

variable {α : Type}

/-- The pass over `n` vertices that has done nothing yet. -/
def init (n : Nat) : Walk := ⟨Array.replicate n .unvisited, [], []⟩

/-- The mark of a vertex. A foreign handle counts as done. -/
def mark (w : Walk) (v : Nat) : Mark := w.marks.getD v (.resolved 0)

/-- The order of a vertex, if the pass has resolved it. -/
def order? (w : Walk) (v : Nat) : Option Nat :=
  match w.marks[v]? with
  | some (.resolved order) => some order
  | _ => none

/-- Put a vertex on the stack, marked as in progress. -/
def push (g : Graph α) (w : Walk) (v : Nat) : Walk :=
  { w with marks := w.marks.setIfInBounds v .inProgress, stack := Frame.enter g v :: w.stack }

/-- **One step of a pass.** -/
def step (g : Graph α) (w : Walk) : Step :=
  match w with
  | ⟨marks, [], finished⟩ => .rest ⟨marks, [], finished⟩
  | ⟨marks, ⟨v, [], order⟩ :: fs, finished⟩ =>
    .next ⟨marks.setIfInBounds v (.resolved order), raiseTop order fs, (v, order) :: finished⟩
  | ⟨marks, ⟨v, d :: ds, order⟩ :: fs, finished⟩ =>
    match marks.getD d (.resolved 0) with
    | .resolved k => .next ⟨marks, Frame.raise ⟨v, ds, order⟩ k :: fs, finished⟩
    | .inProgress =>
      let stack := ⟨v, ds, order⟩ :: fs
      .cycle ⟨marks, stack, finished⟩ (closeCycle stack d)
    | .unvisited => .next (push g ⟨marks, ⟨v, ds, order⟩ :: fs, finished⟩ d)

/-- What is left to read of the frames on a stack. -/
def pending (stack : List Frame) : Nat := stack.foldr (fun f n => f.rest.length + 1 + n) 0

theorem pending_raiseTop (k : Nat) (fs : List Frame) : pending (raiseTop k fs) = pending fs := by
  cases fs <;> rfl

/-- A step marks an unvisited vertex, or leaves less to read. -/
theorem measure_step {g : Graph α} {w w' : Walk} (h : w.step g = .next w') :
    Prod.Lex (· < ·) (· < ·) (markCount w'.marks .unvisited, pending w'.stack)
      (markCount w.marks .unvisited, pending w.stack) := by
  obtain ⟨marks, stack, finished⟩ := w
  unfold step at h
  split at h
  · exact nomatch h
  · rename_i heq
    obtain ⟨rfl, rfl, rfl⟩ := Walk.mk.inj heq
    obtain rfl := Step.next.inj h
    rename_i v order fs
    have hle : markCount (marks.setIfInBounds v (.resolved order)) .unvisited
        ≤ markCount marks .unvisited := markCount_set_le nofun
    rcases Nat.lt_or_eq_of_le hle with hlt | heq
    · exact Prod.Lex.left _ _ hlt
    · rw [heq]
      refine Prod.Lex.right _ ?_
      rw [pending_raiseTop]
      simp [pending]
  · rename_i heq
    obtain ⟨rfl, rfl, rfl⟩ := Walk.mk.inj heq
    split at h
    · obtain rfl := Step.next.inj h
      refine Prod.Lex.right _ ?_
      simp [pending, Frame.raise]
    · exact nomatch h
    · rename_i hmark
      obtain rfl := Step.next.inj h
      exact Prod.Lex.left _ _ (markCount_set_lt nofun (getElem?_of_getD hmark nofun))

/-- Step until nothing is left to do or a cycle is found. -/
def run (g : Graph α) (w : Walk) : Walk × Option (List Nat) :=
  match _h : w.step g with
  | .rest w' => (w', none)
  | .cycle w' vertices => (w', some vertices)
  | .next w' => run g w'
termination_by (markCount w.marks .unvisited, pending w.stack)
decreasing_by exact measure_step _h

/-- **Resolve a vertex** and everything below it, unless that is done already. -/
def resolve (g : Graph α) (w : Walk) (v : Nat) : Walk × Option (List Nat) :=
  match w.mark v with
  | .unvisited => run g (push g w v)
  | _ => (w, none)

/-- Resolve the listed vertices in turn, up to the first cycle. -/
def resolveEach (g : Graph α) (w : Walk) : List Nat → Walk × Option (List Nat)
  | [] => (w, none)
  | v :: vs =>
    match w.resolve g v with
    | (w', some vertices) => (w', some vertices)
    | (w', none) => resolveEach g w' vs

end Walk

end Lifecycle
