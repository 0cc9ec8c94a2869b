import Lifecycle.Proofs.Order.Commit
import Lifecycle.Proofs.Order.Listed
import Lifecycle.Proofs.Order.Walk

/-!
# What a verification decides

`pass_cases` says all that a pass can do. `verify_cases` puts together the check of the list, the pass
and the commit, and says all that `Graph.verify` can do; `resolveOrder_cases` does so for
`Graph.resolveOrder`.

* **`verify_outcome_iff`**: which outcome a list has, said on the edges alone.
* **`verify_orders_eq_depth`**: the orders of a list that passes are depths.
-/

namespace Lifecycle

/-- The order after a pass is the one the pass has resolved. -/
theorem Walk.orderD_of_resolved {w : Walk} {v k : Nat} (h : w.marks[v]? = some (.resolved k)) :
    w.orderD v = k := by
  rw [orderD, order?, h]
  rfl

/-- After a pass without a cycle the listed vertices have their depths. -/
theorem Walk.Resolved.hasDepth {α : Type} {g : Graph α} {w w' : Walk} {vs : List Nat}
    (h : Walk.Resolved g w w' vs) : ∀ v ∈ vs, g.HasDepth v (w'.orderD v) := by
  intro v hv
  obtain ⟨k, hk⟩ := h.resolved v hv
  rw [orderD_of_resolved hk]
  exact h.settled.inv.depth v k hk

namespace Graph

variable {α : Type} {g : Graph α}

/-! ## The cycle that a pass finds -/

/-- The first cycle that plain recursion finds from a list is a cycle, and lies below the list. -/
theorem isCycle_of_findSome? {vs c : List Nat} (h : vs.findSome? g.cycleFrom? = some c) :
    g.IsCycle c ∧ ∀ u ∈ c, ∃ v ∈ vs, g.Reaches v u := by
  obtain ⟨v, hv, hc⟩ := List.exists_of_findSome?_eq_some h
  obtain ⟨hcycle, u, hu, hvu⟩ := recursiveOrder_error (cycleFrom?_eq_some.mp hc)
  exact ⟨hcycle, fun w hw => ⟨v, hv, hvu.trans (hcycle.reachesBelow hu hw).to_reflTransGen⟩⟩

theorem findSome?_cycleFrom?_eq_none {vs : List Nat} :
    vs.findSome? g.cycleFrom? = none ↔ ∀ v ∈ vs, ∃ k, g.HasDepth v k := by
  rw [List.findSome?_eq_none_iff]
  exact forall_congr' fun v => forall_congr' fun _ => cycleFrom?_eq_none

/-- **Plain recursion finds a cycle from a closed list iff there is one within the list.** -/
theorem exists_findSome?_cycleFrom?_iff {vs : List Nat} (h : g.Closed vs) :
    (∃ c, vs.findSome? g.cycleFrom? = some c) ↔ ∃ c, g.IsCycle c ∧ ∀ v ∈ c, v ∈ vs := by
  constructor
  · rintro ⟨c, hc⟩
    obtain ⟨hcycle, hbelow⟩ := isCycle_of_findSome? hc
    refine ⟨c, hcycle, fun u hu => ?_⟩
    obtain ⟨v, hv, hr⟩ := hbelow u hu
    exact hr.mem_of_closed h.dependency hv
  · rintro ⟨c, hcycle, hlisted⟩
    cases hfind : vs.findSome? g.cycleFrom? with
    | some c' => exact ⟨c', rfl⟩
    | none =>
      obtain ⟨u, hu⟩ : ∃ u, u ∈ c := by
        obtain ⟨u, rest, rfl, -⟩ := hcycle
        exact ⟨u, by simp⟩
      obtain ⟨k, hk⟩ := findSome?_cycleFrom?_eq_none.mp hfind u (hlisted u hu)
      exact absurd hcycle (hk.not_isCycle .refl hu)

/-! ## What the calls can do -/

/-- **All that a pass can do**: it meets the first cycle that plain recursion finds from the list, or it
resolves the list. -/
theorem pass_cases {vs : List Nat} (h : ∀ v ∈ vs, v < g.size) :
    (∃ w c, g.pass vs = (w, some c) ∧ vs.findSome? g.cycleFrom? = some c) ∨
    (∃ w, g.pass vs = (w, none) ∧ Walk.Resolved g (Walk.init g.size) w vs) := by
  obtain ⟨hcycle, hdone⟩ := Walk.resolveEach_spec .init h
  obtain ⟨w, found, hpass⟩ : ∃ w found, g.pass vs = (w, found) := ⟨_, _, rfl⟩
  have hres : (Walk.init g.size).resolveEach g vs = (w, found) := hpass
  rw [hres] at hcycle hdone
  cases found with
  | some c => exact Or.inl ⟨w, c, hpass, hcycle.symm⟩
  | none => exact Or.inr ⟨w, hpass, hdone rfl⟩

/-- **All that `verify` can do.** -/
theorem verify_cases (g : Graph α) (vs : List Nat) :
    (∃ e, g.checkListed vs = .error e ∧ g.verify vs = (g, .error e)) ∨
    (g.Closed vs ∧ ∃ c, vs.findSome? g.cycleFrom? = some c ∧
      g.verify vs = (g.resetEach vs, .error (.cycle (g.cycleOf c)))) ∨
    (g.Closed vs ∧ ∃ f : Nat → Nat, (∀ v ∈ vs, g.HasDepth v (f v)) ∧
      g.verify vs = (vs.foldl (fun g v => g.setOrder v (f v)) g,
        .ok (vs.foldl (fun o v => o.insert v (f v)) ∅))) := by
  cases hcheck : g.checkListed vs with
  | error e => exact Or.inl ⟨e, rfl, by rw [verify, hcheck]⟩
  | ok u =>
    have hclosed : g.Closed vs := checkListed_eq_ok_iff.mp hcheck
    refine Or.inr ?_
    rcases pass_cases hclosed.lt with ⟨w, c, hpass, hcycle⟩ | ⟨w, hpass, hdone⟩
    · exact Or.inl ⟨hclosed, c, hcycle, by rw [verify, hcheck, hpass]⟩
    · exact Or.inr ⟨hclosed, w.orderD, hdone.hasDepth, by rw [verify, hcheck, hpass]⟩

/-- **All that `resolveOrder` can do**, but for the orders that it commits. -/
theorem resolveOrder_cases (g : Graph α) (v : Nat) :
    (g.contains v = false ∧ g.resolveOrder v = (g, .error (.vertexNotFound v))) ∨
    (g.contains v = true ∧ ∃ c, g.cycleFrom? v = some c ∧
      g.resolveOrder v = (g, .error (.cycle (g.cycleOf c)))) ∨
    (g.contains v = true ∧ ∃ k, g.HasDepth v k ∧ (g.resolveOrder v).2 = .ok k) := by
  cases hv : g.contains v with
  | false => exact Or.inl ⟨rfl, by simp [resolveOrder, hv]⟩
  | true =>
    obtain ⟨hcycle, hdone⟩ := Walk.resolve_spec .init (of_decide_eq_true hv)
    obtain ⟨w, found, hres⟩ : ∃ w found, (Walk.init g.size).resolve g v = (w, found) := ⟨_, _, rfl⟩
    rw [hres] at hcycle hdone
    refine Or.inr ?_
    cases found with
    | some c => exact Or.inl ⟨rfl, c, hcycle.symm, by rw [resolveOrder, if_pos hv, hres]⟩
    | none =>
      exact Or.inr ⟨rfl, w.orderD v, (hdone rfl).hasDepth v (by simp),
        by rw [resolveOrder, if_pos hv, hres]⟩

/-! ## The outcome -/

/-- A failure that is no cycle is one of the check. -/
theorem verify_eq_error_iff {vs : List Nat} {e : GraphError} (he : ∀ c, e ≠ .cycle c) :
    (g.verify vs).2 = .error e ↔ g.checkListed vs = .error e := by
  refine ⟨fun h => ?_, fun h => by rw [verify, h]⟩
  rcases g.verify_cases vs with ⟨e', hcheck, hverify⟩ | ⟨-, c, -, hverify⟩ | ⟨-, f, -, hverify⟩
  · rw [hverify] at h
    obtain rfl := Except.error.inj h
    exact hcheck
  · rw [hverify] at h
    exact absurd (Except.error.inj h).symm (he _)
  · rw [hverify] at h
    exact nomatch h

/-- A reported cycle is the first that plain recursion finds from the list. -/
theorem verify_eq_cycle_iff {vs : List Nat} {c : Cycle} :
    (g.verify vs).2 = .error (.cycle c) ↔
      g.Closed vs ∧ ∃ us, vs.findSome? g.cycleFrom? = some us ∧ c = g.cycleOf us := by
  rcases g.verify_cases vs with ⟨e, hcheck, hverify⟩ | ⟨hclosed, us, hus, hverify⟩ |
    ⟨hclosed, f, hf, hverify⟩
  · rw [hverify, ← checkListed_eq_ok_iff, hcheck]
    refine ⟨fun h => ?_, fun h => nomatch h.1⟩
    obtain rfl := Except.error.inj h
    exact absurd hcheck checkListed_ne_cycle
  · rw [hverify]
    constructor
    · intro h
      exact ⟨hclosed, us, hus, (GraphError.cycle.inj (Except.error.inj h)).symm⟩
    · rintro ⟨-, us', hus', rfl⟩
      rw [Option.some.inj (hus.symm.trans hus')]
  · rw [hverify, findSome?_cycleFrom?_eq_none.mpr fun v hv => ⟨f v, hf v hv⟩]
    exact ⟨nofun, fun ⟨_, _, h, _⟩ => nomatch h⟩

/-- A list passes iff it is closed and plain recursion finds no cycle from it. -/
theorem exists_verify_eq_ok_iff {vs : List Nat} :
    (∃ o, (g.verify vs).2 = .ok o) ↔ g.Closed vs ∧ vs.findSome? g.cycleFrom? = none := by
  rcases g.verify_cases vs with ⟨e, hcheck, hverify⟩ | ⟨hclosed, us, hus, hverify⟩ |
    ⟨hclosed, f, hf, hverify⟩
  · rw [hverify, ← checkListed_eq_ok_iff, hcheck]
    exact ⟨fun ⟨_, h⟩ => (nomatch h), fun h => (nomatch h.1)⟩
  · rw [hverify, hus]
    exact ⟨fun ⟨_, h⟩ => (nomatch h), fun h => (nomatch h.2)⟩
  · rw [hverify]
    exact ⟨fun _ => ⟨hclosed, findSome?_cycleFrom?_eq_none.mpr fun v hv => ⟨f v, hf v hv⟩⟩,
      fun _ => ⟨_, rfl⟩⟩

/-- **The outcome of a verification, said on the edges alone.** A foreign handle is reported first,
then an unlisted dependency, then a cycle; a closed list without a cycle passes. -/
theorem verify_outcome_iff (g : Graph α) (vs : List Nat) :
    (∀ v, (g.verify vs).2 = .error (.vertexNotFound v) ↔ IsFirst (g.contains · = false) vs v) ∧
    (∀ name requiredBy, (g.verify vs).2 = .error (.missingVertex name requiredBy) ↔
      (∀ v ∈ vs, g.contains v = true) ∧ ∃ v d, IsFirst (g.NeedsUnlisted vs) vs v ∧
        IsFirst (· ∉ vs) (g.dependencies v).reverse d ∧
        name = g.label d ∧ requiredBy = g.label v) ∧
    ((∃ c, (g.verify vs).2 = .error (.cycle c)) ↔
      g.Closed vs ∧ ∃ c, g.IsCycle c ∧ ∀ v ∈ c, v ∈ vs) ∧
    ((∃ o, (g.verify vs).2 = .ok o) ↔
      g.Closed vs ∧ ¬ ∃ c, g.IsCycle c ∧ ∀ v ∈ c, v ∈ vs) := by
  refine ⟨fun v => ?_, fun name requiredBy => ?_, ?_, ?_⟩
  · rw [verify_eq_error_iff (fun _ => by nofun), checkListed_vertexNotFound_iff]
  · rw [verify_eq_error_iff (fun _ => by nofun), checkListed_missingVertex_iff]
  · constructor
    · rintro ⟨c, hc⟩
      obtain ⟨hclosed, us, hus, -⟩ := verify_eq_cycle_iff.mp hc
      exact ⟨hclosed, (exists_findSome?_cycleFrom?_iff hclosed).mp ⟨us, hus⟩⟩
    · rintro ⟨hclosed, hcycle⟩
      obtain ⟨us, hus⟩ := (exists_findSome?_cycleFrom?_iff hclosed).mpr hcycle
      exact ⟨g.cycleOf us, verify_eq_cycle_iff.mpr ⟨hclosed, us, hus, rfl⟩⟩
  · rw [exists_verify_eq_ok_iff]
    refine and_congr_right fun hclosed => ?_
    rw [← exists_findSome?_cycleFrom?_iff hclosed, ← Option.isSome_iff_exists,
      Option.not_isSome_iff_eq_none]

/-! ## Orders -/

/-- The table and the graph of a list that passes hold depths, and nothing else changes. -/
theorem exists_depth_of_verify {vs : List Nat} {o : Orders} (h : (g.verify vs).2 = .ok o) :
    g.Closed vs ∧ ∃ f : Nat → Nat, (∀ v ∈ vs, g.HasDepth v (f v)) ∧
      (∀ v, o.get? v = if v ∈ vs then some (f v) else none) ∧
      ∀ v ∈ vs, (g.verify vs).1.order? v = some (f v) := by
  rcases g.verify_cases vs with ⟨e, -, hverify⟩ | ⟨-, us, -, hverify⟩ | ⟨hclosed, f, hf, hverify⟩
  · rw [hverify] at h
    exact nomatch h
  · rw [hverify] at h
    exact nomatch h
  · rw [hverify] at h ⊢
    obtain rfl := Except.ok.inj h
    refine ⟨hclosed, f, hf, fun v => ?_, fun v hv => ?_⟩
    · rw [Orders.get?_foldl_insert, Orders.get?_empty]
    · exact order?_foldl_setOrder_of_mem hv (hclosed.lt v hv)

theorem hasDepth_of_verify {vs : List Nat} {o : Orders} {v k : Nat} (h : (g.verify vs).2 = .ok o)
    (hget : o.get? v = some k) : g.HasDepth v k := by
  obtain ⟨-, f, hf, hlisted, -⟩ := exists_depth_of_verify h
  rw [hlisted] at hget
  split at hget
  · rename_i hv
    obtain rfl : f v = k := Option.some.inj hget
    exact hf v hv
  · cases hget

/-- A listed vertex gets its depth, in the table and in the graph. -/
theorem orders_of_verify {vs : List Nat} {o : Orders} {v k : Nat} (h : (g.verify vs).2 = .ok o)
    (hv : v ∈ vs) (hk : g.HasDepth v k) :
    o.get? v = some k ∧ (g.verify vs).1.order? v = some k := by
  obtain ⟨-, f, hf, hget, horder⟩ := exists_depth_of_verify h
  obtain rfl : f v = k := (hf v hv).unique hk
  rw [hget, if_pos hv]
  exact ⟨rfl, horder v hv⟩

theorem hasDepth_of_resolveOrder {v k : Nat} (h : (g.resolveOrder v).2 = .ok k) :
    g.HasDepth v k := by
  rcases g.resolveOrder_cases v with ⟨-, hres⟩ | ⟨-, c, -, hres⟩ | ⟨-, m, hdepth, hres⟩
  · rw [hres] at h
    cases h
  · rw [hres] at h
    cases h
  · obtain rfl : m = k := Except.ok.inj (hres.symm.trans h)
    exact hdepth

/-- **The orders of a list that passes are depths**: in the table and in the graph, by the edges alone
and whatever the list. -/
theorem verify_orders_eq_depth {vs : List Nat} {o : Orders} (h : (g.verify vs).2 = .ok o) :
    (∀ v ∈ vs, ∃ k, g.HasDepth v k ∧ o.get? v = some k ∧ (g.verify vs).1.order? v = some k) ∧
    (∀ v ∈ vs, o.get? v =
      some (((g.dependencies v).map fun d => (o.get? d).getD 0).max?.elim 0 (· + 1))) ∧
    (∀ v, v ∉ vs → o.get? v = none) ∧
    o.size = vs.toFinset.card ∧
    (∀ v ∈ vs, ∀ d, g.ReachesBelow v d → ∃ m n, o.get? d = some m ∧ o.get? v = some n ∧ m < n) ∧
    (∀ us p, (g.verify us).2 = .ok p → ∀ v ∈ vs, v ∈ us → p.get? v = o.get? v) := by
  obtain ⟨hclosed, f, hf, hget, horder⟩ := exists_depth_of_verify h
  have hlisted : ∀ v ∈ vs, o.get? v = some (f v) := fun v hv => by rw [hget, if_pos hv]
  refine ⟨fun v hv => ⟨f v, hf v hv, hlisted v hv, horder v hv⟩, fun v hv => ?_, fun v hv => ?_,
    Orders.size_eq_card fun v => ?_, fun v hv d hd => ?_, fun us p hp v hv hvu => ?_⟩
  · have hbelow : ∀ d ∈ g.dependencies v, g.HasDepth d ((o.get? d).getD 0) := fun d hd => by
      have hmem := hclosed.dependency v hv d hd
      rw [hlisted d hmem]
      exact hf d hmem
    rw [hlisted v hv, (hf v hv).eq_max hbelow]
  · rw [hget, if_neg hv]
  · rw [hget]
    by_cases hv : v ∈ vs <;> simp [hv]
  · have hmem : d ∈ vs := Reaches.mem_of_closed hclosed.dependency hd.to_reflTransGen hv
    obtain ⟨n, hn, hdepth⟩ := (hf v hv).reachesBelow hd
    exact ⟨f d, f v, hlisted d hmem, hlisted v hv, by rw [(hf d hmem).unique hdepth]; exact hn⟩
  · obtain ⟨-, f', hf', hget', -⟩ := exists_depth_of_verify hp
    rw [hget', if_pos hvu, hlisted v hv, (hf' v hvu).unique (hf v hv)]

/-- Four vertices: `a` needs `b` and `c`, which both need `d`. -/
def diamond : Graph Unit :=
  [(0, 1), (0, 2), (1, 3), (2, 3)].foldl (fun g e => g.link e.1 e.2)
    (["a", "b", "c", "d"].foldl (fun g name => g.addVertex name ()) empty)

/-- The orders of the diamond, from a list that starts in the middle and repeats an entry. -/
theorem diamond_orders : ∃ o, (diamond.verify [2, 0, 3, 1, 2]).2 = .ok o ∧
    o.toList = [(0, 2), (1, 1), (2, 1), (3, 0)] ∧ o.size = 4 ∧ diamond.HasDepth 0 2 := by
  have h : (diamond.verify [2, 0, 3, 1, 2]).2
      = .ok ⟨#[some 2, some 1, some 1, some 0], by simp⟩ := by cbv
  obtain ⟨hdepth, -, -, hsize, -⟩ := verify_orders_eq_depth h
  obtain ⟨k, hk, hget, -⟩ := hdepth 0 (by decide)
  obtain rfl : 2 = k := Option.some.inj hget
  exact ⟨_, h, rfl, hsize, hk⟩

end Graph

end Lifecycle
