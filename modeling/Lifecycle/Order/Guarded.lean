import Lifecycle.Order.Walk

/-!
# A pass that takes nothing for granted

A `Walk` is total because it has an answer for everything: a vertex without a mark counts as done, a
cycle is cut off the stack wherever the vertex that closes it may stand, orders have no limit, and a
listed vertex without an order counts as 0. A guarded pass does the same work and stops with a `Fault`
wherever such an answer would be needed.

* `Walk.turn` is one turn of the loop that resolves a vertex. The loop has two ways to end, a cycle and
  the order of the vertex; an empty stack at the head of the loop would be a third one, and is a fault.
* `Walk.loop` takes turns until the loop ends. It has a number of turns to spend, and more is a fault.
* `Graph.guardedPass` resolves a list so, with orders below the number of vertices and no more turns in
  all than the graph has vertices and edges.
-/

namespace Lifecycle

namespace Walk

/-- What a pass must never come to. -/
inductive Fault where
  /-- All turns are spent, and the loop goes on. -/
  | turnsSpent
  /-- The loop goes on, and no frame is left. -/
  | noFrame
  /-- The table of marks has no entry for the vertex. -/
  | noMark (v : Nat)
  /-- The vertex closes a cycle, and is not on the stack. -/
  | notOnStack (v : Nat)
  /-- An order is higher than orders may be. -/
  | tooHigh (order : Nat)
  /-- The pass is over, and the listed vertex has no order. -/
  | unresolved (v : Nat)
  deriving Repr, DecidableEq

/-- How a turn of the loop ends. -/
inductive Turn where
  /-- The loop goes on. -/
  | again (w : Walk)
  /-- The vertex that the loop was started for has an order. -/
  | resolved (w : Walk) (order : Nat)
  /-- A dependency closes a cycle. -/
  | cycle (w : Walk) (vertices : List Nat)

/-- How a loop ends: with an order or a cycle, and with some turns left. -/
structure Ending where
  walk : Walk
  turns : Nat
  result : Except (List Nat) Nat

variable {α : Type}

/-- The mark of a vertex. -/
def readMark (marks : Array Mark) (v : Nat) : Except Fault Mark :=
  match marks[v]? with
  | some m => .ok m
  | none => .error (.noMark v)

/-- Mark a vertex. -/
def writeMark (marks : Array Mark) (v : Nat) (m : Mark) : Except Fault (Array Mark) :=
  if v < marks.size then .ok (marks.setIfInBounds v m) else .error (.noMark v)

/-- Raise a frame by a dependency of the given order, but not above `top`. -/
def raiseWithin (top : Nat) (f : Frame) (order : Nat) : Except Fault Frame :=
  if max f.order (order + 1) ≤ top then .ok (f.raise order)
  else .error (.tooHigh (max f.order (order + 1)))

/-- The part of the stack from where `d` stands on it, closed by `d`. -/
def cutCycle (stack : List Frame) (d : Nat) : Except Fault (List Nat) :=
  let path := (stack.map Frame.vertex).reverse
  match path.findIdx? (· == d) with
  | some i => .ok (path.drop i ++ [d])
  | none => .error (.notOnStack d)

/-- One turn of the loop: the innermost frame reads its next dependency, or is closed. -/
def turn (g : Graph α) (top : Nat) : Walk → Except Fault Turn
  | ⟨_, [], _⟩ => .error .noFrame
  | ⟨marks, ⟨v, [], order⟩ :: fs, finished⟩ => do
    let marks ← writeMark marks v (.resolved order)
    match fs with
    | [] => return .resolved ⟨marks, [], (v, order) :: finished⟩ order
    | f :: fs =>
      let f ← raiseWithin top f order
      return .again ⟨marks, f :: fs, (v, order) :: finished⟩
  | ⟨marks, ⟨v, d :: ds, order⟩ :: fs, finished⟩ => do
    match ← readMark marks d with
    | .resolved k =>
      let f ← raiseWithin top ⟨v, ds, order⟩ k
      return .again ⟨marks, f :: fs, finished⟩
    | .inProgress =>
      let vertices ← cutCycle (⟨v, ds, order⟩ :: fs) d
      return .cycle ⟨marks, ⟨v, ds, order⟩ :: fs, finished⟩ vertices
    | .unvisited =>
      let marks ← writeMark marks d .inProgress
      return .again ⟨marks, Frame.enter g d :: ⟨v, ds, order⟩ :: fs, finished⟩

/-- Take turns until the loop ends. -/
def loop (g : Graph α) (top : Nat) : (turns : Nat) → Walk → Except Fault Ending
  | 0, _ => .error .turnsSpent
  | turns + 1, w => do
    match ← turn g top w with
    | .again w => loop g top turns w
    | .resolved w order => return ⟨w, turns, .ok order⟩
    | .cycle w vertices => return ⟨w, turns, .error vertices⟩

/-- Resolve a vertex and everything below it, unless that is done already. -/
def guardedResolve (g : Graph α) (top turns : Nat) (w : Walk) (v : Nat) : Except Fault Ending := do
  match w.order? v with
  | some order => return ⟨w, turns, .ok order⟩
  | none =>
    let marks ← writeMark w.marks v .inProgress
    loop g top turns ⟨marks, [Frame.enter g v], w.finished⟩

/-- Resolve the listed vertices in turn, up to the first cycle. -/
def guardedEach (g : Graph α) (top : Nat) :
    (turns : Nat) → Walk → List Nat → Except Fault (Walk × Option (List Nat))
  | _, w, [] => return (w, none)
  | turns, w, v :: vs => do
    match ← guardedResolve g top turns w v with
    | ⟨w, _, .error vertices⟩ => return (w, some vertices)
    | ⟨w, turns, .ok _⟩ => guardedEach g top turns w vs

/-- The order of a listed vertex after a pass. -/
def readOrder (w : Walk) (v : Nat) : Except Fault Nat :=
  match w.order? v with
  | some order => .ok order
  | none => .error (.unresolved v)

end Walk

/-- Resolve the listed vertices from a clean slate and read their orders, up to the first cycle. -/
def Graph.guardedPass {α : Type} (g : Graph α) (vs : List Nat) :
    Except Walk.Fault (Walk × Except (List Nat) (List Nat)) := do
  match ← Walk.guardedEach g (g.size - 1) (g.size + g.edgeCount) (Walk.init g.size) vs with
  | (w, some vertices) => return (w, .error vertices)
  | (w, none) =>
    let orders ← vs.mapM w.readOrder
    return (w, .ok orders)

end Lifecycle
