import Lifecycle.Proofs.Graph.Build
import Lifecycle.Proofs.Order.Agreement
import Mathlib

/-!
# What a graph records of its history

A graph is built by calls of which some add vertices, some add edges or are refused, and the others
touch neither.

* `namesAdded` and `targetsAdded` read off a history which vertices it adds and which edges it adds with
  success. A call adds what it says (`Action.labels_apply`, `Action.dependencies_apply`), and so does a
  history (`labels_after`, `dependencies_after`).
* **`records_after`**: the vertices of a graph are those of its history in the order of the calls, and
  the dependencies of a vertex are the targets added to it, each where it was first added.
-/

namespace Lifecycle

variable {α : Type}

/-! ## What a call adds -/

namespace Action

/-- The name of the vertex that a call adds. -/
def name? : Action α → Option String
  | addVertex name _ => some name
  | _ => none

/-- The target of the edge from `v` that a call adds, unless it is refused. -/
def target? (g : Graph α) (v : Nat) : Action α → Option Nat
  | addDependency a b => if a = v ∧ (g.addDependency a b).2.isOk then some b else none
  | _ => none

/-- A call adds a vertex, or an edge, or neither. -/
theorem shape_cases (a : Action α) :
    (∃ name payload, a = addVertex name payload) ∨ (∃ x y, a = addDependency x y) ∨
      (a.keepsShape = true ∧ a.name? = none ∧ ∀ g v, a.target? g v = none) := by
  cases a with
  | addVertex name payload => exact Or.inl ⟨name, payload, rfl⟩
  | addDependency x y => exact Or.inr (Or.inl ⟨x, y, rfl⟩)
  | _ => exact Or.inr (Or.inr ⟨rfl, rfl, fun _ _ => rfl⟩)

/-- **The vertices after a call**: those from before and the one it adds. -/
theorem labels_apply (g : Graph α) (a : Action α) :
    (a.apply g).ids.map (a.apply g).label = g.ids.map g.label ++ a.name?.toList := by
  rcases a.shape_cases with ⟨name, payload, rfl⟩ | ⟨x, y, rfl⟩ | ⟨hshape, hname, -⟩
  · change (g.addVertex name payload).ids.map (g.addVertex name payload).label = _ ++ [name]
    rw [Graph.ids_addVertex, List.map_append, List.map_singleton, Graph.label_addVertex_self]
    congr 1
    exact List.map_congr_left fun v hv => Graph.label_addVertex_of_lt (Graph.mem_ids.mp hv) _ _
  · change (g.addDependency x y).1.ids.map (g.addDependency x y).1.label = _ ++ []
    rw [List.append_nil]
    rcases g.addDependency_cases x y with ⟨-, -, hadd⟩ | ⟨-, hadd⟩
    · have hlabel : (g.link x y).label = g.label := by
        funext v
        unfold Graph.label Graph.vertex?
        rw [Graph.vertices_link]
      rw [hadd, hlabel, Graph.ids, Graph.size_link, Graph.ids]
    · rw [hadd]
  · have hsame : g.SameShape (a.apply g) := a.sameShape_apply g hshape
    rw [hname, Option.toList_none, List.append_nil, Graph.ids, hsame.size, funext hsame.label,
      Graph.ids]

/-- **The dependencies after a call**: those from before and the target it adds, unless that was there. -/
theorem dependencies_apply (g : Graph α) (a : Action α) (v : Nat) :
    (a.apply g).dependencies v = (a.target? g v).toList.foldl addNew (g.dependencies v) := by
  rcases a.shape_cases with ⟨name, payload, rfl⟩ | ⟨x, y, rfl⟩ | ⟨hshape, -, htarget⟩
  · exact Graph.dependencies_addVertex g name payload v
  · change (g.addDependency x y).1.dependencies v = _
    rcases g.addDependency_cases x y with ⟨hx, hy, hadd⟩ | ⟨-, hadd⟩
    · rw [target?, hadd, Graph.dependencies_link hx hy]
      by_cases hv : x = v <;> simp [hv, Except.isOk, Except.toBool]
    · rw [target?, hadd]
      simp [Except.isOk, Except.toBool]
  · rw [(a.sameShape_apply g hshape).dependencies, htarget]
    rfl

end Action

/-! ## What a history adds -/

namespace Graph

/-- The names of the vertices that some calls add, in the order of the calls. -/
def namesAdded (actions : List (Action α)) : List String := actions.filterMap Action.name?

/-- The targets of the edges from `v` that some calls add with success, in the order of the calls. -/
def targetsAdded (g : Graph α) (v : Nat) : List (Action α) → List Nat
  | [] => []
  | a :: actions => (a.target? g v).toList ++ (a.apply g).targetsAdded v actions

theorem labels_after :
    ∀ (actions : List (Action α)) (g : Graph α),
      (g.after actions).ids.map (g.after actions).label = g.ids.map g.label ++ namesAdded actions
  | [], g => by simp [after, namesAdded]
  | a :: actions, g => by
    have hrest := labels_after actions (a.apply g)
    rw [Action.labels_apply, List.append_assoc] at hrest
    have hnames : namesAdded (a :: actions) = a.name?.toList ++ namesAdded actions := by
      unfold namesAdded
      rw [List.filterMap_cons]
      cases a.name? <;> rfl
    rw [hnames]
    exact hrest

theorem dependencies_after (v : Nat) :
    ∀ (actions : List (Action α)) (g : Graph α),
      (g.after actions).dependencies v
        = (g.targetsAdded v actions).foldl addNew (g.dependencies v)
  | [], _ => rfl
  | a :: actions, g => by
    rw [targetsAdded, List.foldl_append, ← Action.dependencies_apply]
    exact dependencies_after v actions (a.apply g)

/-- What a graph records of the calls that built it from nothing. -/
structure Records (g : Graph α) (actions : List (Action α)) : Prop where
  /-- The handles count the vertices added. -/
  ids : g.ids = List.range (namesAdded actions).length
  /-- They do so in the order of the calls. -/
  labels : g.ids.map g.label = namesAdded actions
  /-- The next vertex gets the next handle. -/
  next : ∀ name payload v, (g.addVertex name payload).vertex? v
    = if v = g.size then some { label := name, payload := payload } else g.vertex? v
  /-- The dependencies of a vertex are the targets added to it, each where it was first added. -/
  dependencies : ∀ v, g.dependencies v = ((empty : Graph α).targetsAdded v actions).eraseDups
  nodup : ∀ v, (g.dependencies v).Nodup
  lt_size : ∀ v, ∀ d ∈ g.dependencies v, v < g.size ∧ d < g.size
  /-- There is an edge for each dependency. -/
  edgeCount : g.edgeCount = ∑ v ∈ Finset.range g.size, (g.dependencies v).length
  /-- An edge is refused iff one of its ends is foreign. -/
  refused_iff : ∀ a b, (∃ e, (g.addDependency a b).2 = .error e) ↔
    g.contains a = false ∨ g.contains b = false
  /-- The refusal names the source if that is foreign, else the target, and changes nothing. -/
  refused : ∀ a b e, (g.addDependency a b).2 = .error e →
    e = .vertexNotFound (if g.contains a = true then b else a) ∧ (g.addDependency a b).1 = g
  /-- An edge changes the dependencies of its source alone. -/
  elsewhere : ∀ a b v, v ≠ a → (g.addDependency a b).1.dependencies v = g.dependencies v

/-- **A graph records its history**, whatever calls of whatever outcome it is made of. -/
theorem records_after (actions : List (Action α)) : ((empty : Graph α).after actions).Records actions := by
  have hlabels := labels_after actions (empty : Graph α)
  have hnil : (empty : Graph α).ids.map (empty : Graph α).label = [] := rfl
  rw [hnil, List.nil_append] at hlabels
  refine ⟨?_, hlabels, vertex?_addVertex _, fun v => ?_, nodup_dependencies _, fun v d hd => ?_,
    edgeCount_eq_sum _, fun a b => ?_, fun a b e he => ?_, fun a b v hv => ?_⟩
  · rw [← hlabels, List.length_map, ids, List.length_range]
  · rw [dependencies_after, ← foldl_addNew_nil]
    rfl
  · exact ⟨lt_of_mem_dependencies hd, dependency_lt hd⟩
  · rcases addDependency_cases (empty.after actions) a b with ⟨ha, hb, hadd⟩ | ⟨hforeign, hadd⟩
    · rw [hadd]
      simp [contains, ha, hb]
    · rw [hadd]
      simp [hforeign]
  · rcases addDependency_cases (empty.after actions) a b with ⟨-, -, hadd⟩ | ⟨-, hadd⟩
    · rw [hadd] at he
      cases he
    · rw [hadd] at he ⊢
      exact ⟨(Except.error.inj he).symm, rfl⟩
  · rcases addDependency_cases (empty.after actions) a b with ⟨ha, hb, hadd⟩ | ⟨-, hadd⟩
    · rw [hadd, dependencies_link ha hb, if_neg (Ne.symm hv)]
    · rw [hadd]

/-- A history with refused, repeated and circular edges between two vertices of one name. -/
def tangle : List (Action Unit) :=
  [.addDependency 0 0, .addVertex "a" (), .addDependency 0 1, .addVertex "a" (), .addDependency 0 1,
    .verify [1, 0], .addDependency 0 0, .addDependency 0 1, .addDependency 1 0, .topologicalOrder,
    .addDependency 2 0]

/-- What it records: the edge to the other vertex comes first, and once. -/
theorem tangle_records :
    (empty.after tangle).ids = [0, 1] ∧ (empty.after tangle).dependencies 0 = [1, 0] ∧
    (empty.after tangle).edgeCount = 3 ∧
    ((empty.after tangle).addDependency 5 7).2 = .error (.vertexNotFound 5) ∧
    ((empty.after tangle).addDependency 1 7).2 = .error (.vertexNotFound 7) ∧
    ((empty.after tangle).addDependency 1 1).1.dependencies 0 = [1, 0] := by
  have h : (empty.after tangle).Records tangle := records_after tangle
  have hids : (empty.after tangle).ids = [0, 1] := h.ids
  have hsize : (empty.after tangle).size = 2 := by
    rw [← List.length_range (n := (empty.after tangle).size)]
    exact congrArg List.length hids
  have htargets₀ : (empty : Graph Unit).targetsAdded 0 tangle = [1, 0, 1] := by cbv
  have htargets₁ : (empty : Graph Unit).targetsAdded 1 tangle = [0] := by cbv
  have h₀ : (empty.after tangle).dependencies 0 = [1, 0] := by
    rw [h.dependencies, htargets₀]
    rfl
  have h₁ : (empty.after tangle).dependencies 1 = [0] := by
    rw [h.dependencies, htargets₁]
    rfl
  refine ⟨hids, h₀, ?_, ?_, ?_, ?_⟩
  · rw [h.edgeCount, hsize, Finset.sum_range_succ, Finset.sum_range_one, h₀, h₁]
    rfl
  · obtain ⟨e, he⟩ := (h.refused_iff 5 7).mpr (by simp [contains, hsize])
    rw [he, (h.refused 5 7 e he).1]
    simp [contains, hsize]
  · obtain ⟨e, he⟩ := (h.refused_iff 1 7).mpr (by simp [contains, hsize])
    rw [he, (h.refused 1 7 e he).1]
    simp [contains, hsize]
  · rw [h.elsewhere 1 1 0 (by decide), h₀]

end Graph

end Lifecycle
