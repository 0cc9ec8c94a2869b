import Lifecycle.Graph.Recursion
import Lifecycle.Proofs.Graph.Path

/-!
# What plain recursion finds

`Graph.recursiveOrder` follows every path from a vertex until it ends or comes back to itself.

* **`recursiveOrder_eq_ok_iff`**: it returns an order iff the vertex has a depth, and then that depth.
* `orderOver_eq_mapM`: it does so without remembering anything.
* `recursiveOrder_error`: it fails with a cycle, and that cycle lies below the vertex.
* `cycleFrom?` is the failure alone. It is found by a search that carries no orders: the equations
  `cycleOver?_nil`, `cycleOver?_of_mem` and `cycleOver?_of_not_mem` say how, and a dependency that
  has a depth is skipped (`cycleOver?_of_hasDepth`).
-/

namespace Lifecycle.Graph

variable {α : Type} {g : Graph α}

/-! ## The recursion, one dependency at a time -/

/-- What the recursion does with one dependency, given the path that led to it. -/
def orderBelow (g : Graph α) (path : List Nat) (d : Nat) : Except (List Nat) Nat :=
  if d ∈ path then .error (path.dropWhile (· != d) ++ [d])
  else g.orderOver (path ++ [d]) (g.dependencies d) 0

/-- **The order so far is only an accumulator**: the recursion reads the dependencies in turn up to the
first cycle, and takes the highest of their orders. -/
theorem orderOver_eq_mapM {path : List Nat} :
    ∀ {ds : List Nat} {order : Nat}, g.orderOver path ds order =
      (ds.mapM (g.orderBelow path)).map fun ks => max order (ks.max?.elim 0 (· + 1))
  | [], order => by
    rw [orderOver]
    simp [Except.map, pure, Except.pure]
  | d :: ds, order => by
    rw [List.mapM_cons]
    by_cases hd : d ∈ path
    · have hbelow : g.orderBelow path d = .error (path.dropWhile (· != d) ++ [d]) := if_pos hd
      rw [orderOver, dif_pos hd, hbelow]
      rfl
    · have hbelow : g.orderBelow path d = g.orderOver (path ++ [d]) (g.dependencies d) 0 := if_neg hd
      rw [orderOver, dif_neg hd, hbelow]
      cases g.orderOver (path ++ [d]) (g.dependencies d) 0 with
      | error c => rfl
      | ok k =>
        show g.orderOver path ds (max order (k + 1)) = _
        rw [orderOver_eq_mapM]
        cases ds.mapM (g.orderBelow path) with
        | error c => rfl
        | ok ks =>
          refine congrArg Except.ok ?_
          show max (max order (k + 1)) (ks.max?.elim 0 (· + 1))
            = max order ((k :: ks).max?.elim 0 (· + 1))
          rw [List.max?_cons, Nat.max_assoc]
          cases ks.max? with
          | none => rw [Option.elim_none, Nat.max_zero]; rfl
          | some m => exact congrArg (max order) (Nat.add_max_add_right k m 1)

/-! ## Orders -/

/-- An order that is returned is above the depths of the dependencies read, and attained. -/
theorem orderOver_ok {path rest : List Nat} {order m : Nat}
    (h : g.orderOver path rest order = .ok m) :
    order ≤ m ∧ (∀ d ∈ rest, ∃ n, n < m ∧ g.HasDepth d n) ∧
      (m = order ∨ ∃ d ∈ rest, ∃ n, m = n + 1 ∧ g.HasDepth d n) := by
  fun_induction g.orderOver path rest order generalizing m with
  | case1 path order =>
    obtain rfl := Except.ok.inj h
    exact ⟨Nat.le_refl _, fun _ hd => absurd hd List.not_mem_nil, Or.inl rfl⟩
  | case2 => exact nomatch h
  | case3 => exact nomatch h
  -- the recursion below `d` starts at 0, so what it returns is attained or 0: the depth of `d`
  | case4 path d ds order _ k hk ihd ihds =>
    obtain ⟨-, hbelow, htop⟩ := ihd hk
    have hd : g.HasDepth d k := .of_related hbelow htop
    obtain ⟨hle, hrest, hmax⟩ := ihds h
    refine ⟨Nat.le_trans (Nat.le_max_left order (k + 1)) hle, fun e he => ?_, ?_⟩
    · rcases List.mem_cons.mp he with rfl | he
      · exact ⟨k, Nat.le_trans (Nat.le_max_right order (k + 1)) hle, hd⟩
      · exact hrest e he
    · rcases hmax with rfl | ⟨e, he, hlast⟩
      · rcases Nat.le_total (k + 1) order with hko | hko
        · exact Or.inl (Nat.max_eq_left hko)
        · exact Or.inr ⟨d, List.mem_cons_self, k, Nat.max_eq_right hko, hd⟩
      · exact Or.inr ⟨e, List.mem_cons_of_mem _ he, hlast⟩

theorem hasDepth_of_orderOver {path : List Nat} {v k : Nat}
    (h : g.orderOver path (g.dependencies v) 0 = .ok k) : g.HasDepth v k := by
  obtain ⟨-, hbelow, htop⟩ := orderOver_ok h
  exact .of_related hbelow htop

/-! ## Cycles -/

/-- A failure is a cycle below the last vertex of the path, if the path is one of dependencies between
different vertices. -/
theorem orderOver_error {path rest : List Nat} {order : Nat} {c : List Nat}
    (h : g.orderOver path rest order = .error c) {us : List Nat} {v : Nat} (hpath : path = us ++ [v])
    (hp : g.IsPath path) (hn : path.Nodup) (hrest : ∀ d ∈ rest, d ∈ g.dependencies v) :
    g.IsCycle c ∧ ∃ u ∈ c, g.Reaches v u := by
  fun_induction g.orderOver path rest order generalizing us v with
  | case1 => exact nomatch h
  | case2 path d ds order hd =>
    obtain rfl := Except.error.inj h
    have hvd : d ∈ g.dependencies v := hrest d List.mem_cons_self
    refine ⟨IsPath.isCycle (by rw [hpath] at hp ⊢; exact Chain.isChain_snoc hp hvd) hn hd, d, by simp, ?_⟩
    exact .single hvd
  | case3 path d ds order hd cycle hcycle ih =>
    obtain rfl := Except.error.inj h
    have hvd : d ∈ g.dependencies v := hrest d List.mem_cons_self
    have hn' : (path ++ [d]).Nodup := by
      rw [← List.concat_eq_append, List.nodup_concat]
      exact ⟨hd, hn⟩
    obtain ⟨hc, u, hu, hr⟩ := ih hcycle rfl (by rw [hpath] at hp ⊢; exact Chain.isChain_snoc hp hvd) hn'
      fun _ he => he
    exact ⟨hc, u, hu, .head hvd hr⟩
  | case4 path d ds order hd k hk ihd ihds =>
    exact ihds h hpath hp hn fun e he => hrest e (List.mem_cons_of_mem d he)

/-- **A failure of the recursion is a cycle below the vertex.** -/
theorem recursiveOrder_error {v : Nat} {c : List Nat} (h : g.recursiveOrder v = .error c) :
    g.IsCycle c ∧ ∃ u ∈ c, g.Reaches v u := by
  have hpath : [v] = [] ++ [v] := rfl
  exact orderOver_error h hpath (.singleton v) (List.nodup_singleton v) fun _ hd => hd

/-- **The recursion returns an order iff the vertex has a depth**, and then that depth. -/
theorem recursiveOrder_eq_ok_iff {v k : Nat} : g.recursiveOrder v = .ok k ↔ g.HasDepth v k := by
  constructor
  · exact hasDepth_of_orderOver
  · intro h
    cases hr : g.recursiveOrder v with
    | ok m => rw [(hasDepth_of_orderOver hr).unique h]
    | error c =>
      obtain ⟨hc, u, hu, hvu⟩ := recursiveOrder_error hr
      exact absurd hc (h.not_isCycle hvu hu)

/-! ## The search for a cycle alone -/

/-- The cycle that the recursion runs into over some dependencies, if it does. -/
def cycleOver? (g : Graph α) (path rest : List Nat) : Option (List Nat) :=
  match g.orderOver path rest 0 with
  | .error c => some c
  | .ok _ => none

/-- The cycle that the recursion runs into from a vertex, if it does. -/
def cycleFrom? (g : Graph α) (v : Nat) : Option (List Nat) := g.cycleOver? [v] (g.dependencies v)

/-- A failure does not hang on the order so far. -/
theorem orderOver_error_any {path rest : List Nat} {order : Nat} {c : List Nat}
    (h : g.orderOver path rest order = .error c) (order' : Nat) :
    g.orderOver path rest order' = .error c := by
  fun_induction g.orderOver path rest order generalizing order' with
  | case1 => exact nomatch h
  | case2 path d ds order hd =>
    rw [orderOver, dif_pos hd]
    exact h
  | case3 path d ds order hd cycle hcycle ih =>
    rw [orderOver, dif_neg hd, hcycle]
    exact h
  | case4 path d ds order hd k hk ihd ihds =>
    rw [orderOver, dif_neg hd, hk]
    exact ihds h _

theorem cycleOver?_eq_some {path rest : List Nat} {c : List Nat} :
    g.cycleOver? path rest = some c ↔ g.orderOver path rest 0 = .error c := by
  unfold cycleOver?
  cases g.orderOver path rest 0 <;> simp

theorem cycleOver?_eq_none {path rest : List Nat} :
    g.cycleOver? path rest = none ↔ ∃ k, g.orderOver path rest 0 = .ok k := by
  unfold cycleOver?
  cases g.orderOver path rest 0 <;> simp

theorem cycleFrom?_eq_some {v : Nat} {c : List Nat} :
    g.cycleFrom? v = some c ↔ g.recursiveOrder v = .error c := cycleOver?_eq_some

theorem cycleFrom?_eq_none {v : Nat} : g.cycleFrom? v = none ↔ ∃ k, g.HasDepth v k :=
  cycleOver?_eq_none.trans (exists_congr fun _ => recursiveOrder_eq_ok_iff)

@[simp] theorem cycleOver?_nil {path : List Nat} : g.cycleOver? path [] = none := by
  rw [cycleOver?_eq_none]
  exact ⟨0, by rw [orderOver]⟩

/-- A dependency on the path closes a cycle. -/
theorem cycleOver?_of_mem {path ds : List Nat} {d : Nat} (hd : d ∈ path) :
    g.cycleOver? path (d :: ds) = some (path.dropWhile (· != d) ++ [d]) := by
  rw [cycleOver?_eq_some, orderOver, dif_pos hd]

/-- A dependency that is not on the path is searched, and then the others. -/
theorem cycleOver?_of_not_mem {path ds : List Nat} {d : Nat} (hd : d ∉ path) :
    g.cycleOver? path (d :: ds) =
      (g.cycleOver? (path ++ [d]) (g.dependencies d)).or (g.cycleOver? path ds) := by
  cases hbelow : g.orderOver (path ++ [d]) (g.dependencies d) 0 with
  | error c =>
    rw [cycleOver?_eq_some.mpr hbelow, Option.some_or, cycleOver?_eq_some, orderOver, dif_neg hd,
      hbelow]
  | ok k =>
    rw [cycleOver?_eq_none.mpr ⟨k, hbelow⟩, Option.none_or]
    cases hrest : g.cycleOver? path ds with
    | some c =>
      rw [cycleOver?_eq_some] at hrest ⊢
      rw [orderOver, dif_neg hd, hbelow]
      exact orderOver_error_any hrest _
    | none =>
      rw [cycleOver?_eq_none] at hrest ⊢
      obtain ⟨m, hm⟩ := hrest
      rw [orderOver, dif_neg hd, hbelow]
      cases hmax : g.orderOver path ds (max 0 (k + 1)) with
      | ok m' => exact ⟨m', hmax⟩
      | error c => exact absurd (orderOver_error_any hmax 0) (by simp [hm])

/-- Below a vertex that has a depth there is no cycle to find, whatever path led to it. -/
theorem cycleOver?_of_hasDepth {us : List Nat} {d k : Nat} (h : g.HasDepth d k)
    (hp : g.IsPath (us ++ [d])) (hn : (us ++ [d]).Nodup) :
    g.cycleOver? (us ++ [d]) (g.dependencies d) = none := by
  cases hc : g.cycleOver? (us ++ [d]) (g.dependencies d) with
  | none => rfl
  | some c =>
    obtain ⟨hcycle, u, hu, hr⟩ := orderOver_error (cycleOver?_eq_some.mp hc) rfl hp hn fun _ he => he
    exact absurd hcycle (h.not_isCycle hr hu)

end Lifecycle.Graph
