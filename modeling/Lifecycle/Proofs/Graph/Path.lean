import Lifecycle.Graph.Basic
import Lifecycle.Proofs.Relation.Chain
import Mathlib

/-!
# Paths, cycles and depths

What lies below a vertex, what a cycle is and how deep a vertex stands, said on the edges of a graph alone.
Vertices are related if one depends directly on the other (`Graph.DependsOn`):

* `Graph.IsPath`: each vertex of a list depends directly on the next;
* `Graph.Reaches`: a vertex is another one or depends on it, directly or not;
* `Graph.IsCycle`: a closed list of vertices that runs once around a cycle;
* `Graph.HasDepth`: the number of edges on the longest path from a vertex.

Beyond what holds of any relation:

* `Reaches.lt`: what lies below a vertex of the graph is a vertex of the graph. So a path through different
  vertices has fewer edges than the graph has vertices (`IsPath.length_lt`).
* `IsPath.isCycle`: a path that comes back to one of its vertices closes a cycle.
* `HasDepth.eq_max`: a depth is read off the depths of the dependencies.
-/

namespace Lifecycle.Graph

variable {α : Type}

/-- A vertex depends directly on another one. -/
abbrev DependsOn (g : Graph α) (v d : Nat) : Prop := d ∈ g.dependencies v

/-- Each vertex of a list depends directly on the next. -/
abbrev IsPath (g : Graph α) (vs : List Nat) : Prop := vs.IsChain g.DependsOn

/-- A vertex is another one or depends on it, directly or not. -/
abbrev Reaches (g : Graph α) : Nat → Nat → Prop := Relation.ReflTransGen g.DependsOn

/-- A vertex depends on another one, directly or not. -/
abbrev ReachesBelow (g : Graph α) : Nat → Nat → Prop := Relation.TransGen g.DependsOn

/-- No vertex depends on itself. -/
abbrev Acyclic (g : Graph α) : Prop := Chain.Acyclic g.DependsOn

/-- A closed list of vertices: different ones, each of which depends directly on the next and the last
on the first, which is repeated at the end. -/
abbrev IsCycle (g : Graph α) (vs : List Nat) : Prop := Chain.IsCycle g.DependsOn vs

/-- The longest path from a vertex has that many edges. -/
abbrev HasDepth (g : Graph α) (v depth : Nat) : Prop := Chain.HasDepth g.DependsOn v depth

variable {g : Graph α} {v w d k : Nat} {us vs path : List Nat}

/-! ## Reachability -/

/-- A list that holds the dependencies of each of its entries holds all that lies below them. -/
theorem Reaches.mem_of_closed (hc : ∀ v ∈ vs, ∀ d ∈ g.dependencies v, d ∈ vs) (h : g.Reaches v w)
    (hv : v ∈ vs) : w ∈ vs :=
  Chain.closed (P := fun v => v ∈ vs) h hc hv

/-- What lies on or below a vertex of the graph is a vertex of the graph. -/
theorem Reaches.lt (h : g.Reaches v w) (hv : v < g.size) : w < g.size :=
  Chain.closed (P := fun v => v < g.size) h (fun _ _ _ hd => dependency_lt hd) hv

/-- A path through different vertices has fewer edges than the graph has vertices. -/
theorem IsPath.length_lt (hp : g.IsPath (v :: path)) (hn : (v :: path).Nodup) (hv : v < g.size) :
    path.length < g.size := by
  have hids : v :: path ⊆ g.ids := fun u hu => mem_ids.mpr (Reaches.lt (Chain.reaches_of_mem hp hu) hv)
  have hle := (List.subperm_of_subset hn hids).length_le
  rw [ids, List.length_range, List.length_cons] at hle
  exact hle

/-! ## Cycles -/

/-- Dropping up to an entry that occurs once keeps that entry and what follows. -/
theorem dropWhile_ne_append {ws : List Nat} (hd : d ∉ us) :
    (us ++ d :: ws).dropWhile (· != d) = d :: ws := by
  rw [List.dropWhile_append_of_pos fun u hu => by simpa using fun h : u = d => hd (h ▸ hu)]
  simp

/-- A path of different vertices that comes back to one of them closes a cycle: the part from that
vertex on. -/
theorem IsPath.isCycle (hp : g.IsPath (us ++ [d])) (hn : us.Nodup) (hd : d ∈ us) :
    g.IsCycle (us.dropWhile (· != d) ++ [d]) := by
  obtain ⟨before, after, rfl, hnot⟩ := List.eq_append_cons_of_mem hd
  rw [dropWhile_ne_append hnot]
  rw [List.append_assoc] at hp
  exact ⟨d, after, rfl, (List.nodup_append.mp hn).2.1, hp.right_of_append⟩

/-! ## Depths -/

/-- The depth of a vertex read off the depths of its dependencies. -/
theorem HasDepth.eq_max {f : Nat → Nat} (h : g.HasDepth v k)
    (hf : ∀ d ∈ g.dependencies v, g.HasDepth d (f d)) :
    k = ((g.dependencies v).map f).max?.elim 0 (· + 1) := by
  have hmem : ∀ d ∈ g.dependencies v, f d ∈ (g.dependencies v).map f := fun d hd =>
    List.mem_map_of_mem hd
  refine h.unique ?_
  cases hmax : ((g.dependencies v).map f).max? with
  | none =>
    rw [List.max?_eq_none_iff] at hmax
    rw [hmax] at hmem
    exact .of_related (fun d hd => absurd (hmem d hd) List.not_mem_nil) (Or.inl rfl)
  | some m =>
    obtain ⟨htop, hle⟩ := List.max?_eq_some_iff.mp hmax
    obtain ⟨d, hd, rfl⟩ := List.mem_map.mp htop
    exact .of_related (fun e he => ⟨f e, Nat.lt_succ_of_le (hle _ (hmem e he)), hf e he⟩)
      (Or.inr ⟨d, hd, f d, rfl, hf d hd⟩)

end Lifecycle.Graph
