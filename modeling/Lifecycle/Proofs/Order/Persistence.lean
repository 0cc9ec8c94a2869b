import Lifecycle.Proofs.Order.History
import Lifecycle.Proofs.Order.Whole
import Mathlib

/-!
# What becomes of committed orders

Orders go stale when edges are added, are partly overwritten by verifications of sublists, and are
cleared by resets and cycles.

* **`Action.commits_apply`**: whatever the call, an order after it is one from before, the depth of its
  vertex, or 0. A call that neither adds an edge nor clears orders leaves such a 0 in a graph with a cycle
  only.
* **`attested_after`**: so every order of a graph that was built from nothing is the length of a path in
  the graph as it is, and at most what a new verification would find.
* **`orders_stay_depths`**: once all vertices were verified the orders stay depths, until an edge is added
  or an order cleared.
-/

namespace Lifecycle

variable {α : Type}

namespace Graph

variable {g g' : Graph α}

/-! ## What a call commits -/

/-- Each order in `g'` is one of `g`, the depth of its vertex, or 0 if that is what `cleared` allows. -/
def Commits (g g' : Graph α) (cleared : Prop) : Prop :=
  ∀ v k, g'.order? v = some k → g.order? v = some k ∨ g'.HasDepth v k ∨ (k = 0 ∧ cleared)

theorem Commits.of_order? {p : Prop} (h : ∀ v, g'.order? v = g.order? v) : g.Commits g' p :=
  fun v _ hk => Or.inl ((h v).symm.trans hk)

theorem Commits.refl (g : Graph α) (p : Prop) : g.Commits g p := .of_order? fun _ => rfl

theorem Commits.mono {p q : Prop} (h : g.Commits g' p) (hpq : p → q) : g.Commits g' q :=
  fun v k hk => by
    rcases h v k hk with hold | hdepth | ⟨hzero, hp⟩
    · exact Or.inl hold
    · exact Or.inr (Or.inl hdepth)
    · exact Or.inr (Or.inr ⟨hzero, hpq hp⟩)

/-- A new vertex has order 0, which is its depth. -/
theorem commits_addVertex (g : Graph α) (name : String) (payload : α) :
    g.Commits (g.addVertex name payload) False := by
  intro v k hk
  unfold order? at hk ⊢
  rw [vertex?_addVertex] at hk
  split at hk
  · rename_i hv
    obtain rfl : 0 = k := Option.some.inj hk
    -- edges have both ends in the graph, so none leaves a vertex that is just added
    have hnone : (g.addVertex name payload).dependencies v = [] := by
      rw [dependencies_addVertex, dependencies_of_le (Nat.le_of_eq hv.symm)]
    refine Or.inr (Or.inl (.of_related (fun d hd => ?_) (Or.inl rfl)))
    have hmem : d ∈ [] := hnone ▸ (hd : d ∈ (g.addVertex name payload).dependencies v)
    exact absurd hmem List.not_mem_nil
  · exact Or.inl hk

theorem commits_addDependency (g : Graph α) (a b : Nat) :
    g.Commits (g.addDependency a b).1 False := by
  rcases g.addDependency_cases a b with ⟨-, -, hadd⟩ | ⟨-, hadd⟩
  · rw [hadd]
    refine .of_order? fun v => ?_
    unfold order? vertex?
    rw [vertices_link]
  · rw [hadd]
    exact .refl g _

theorem commits_modifyPayload (g : Graph α) (u : Nat) (f : α → α) :
    g.Commits (g.modifyPayload u f) False := by
  refine .of_order? fun v => ?_
  unfold order?
  show (g.vertices.modify u _)[v]?.map Vertex.order = g.vertices[v]?.map Vertex.order
  rw [Array.getElem?_modify]
  split
  · rw [Option.map_map]
    rfl
  · rfl

/-! ## Clearing orders -/

theorem commits_resetEach (g : Graph α) (vs : List Nat) : g.Commits (g.resetEach vs) True := by
  intro v k hk
  change (vs.foldl (fun g v => g.setOrder v 0) g).order? v = some k at hk
  rw [order?_foldl_setOrder] at hk
  split at hk
  · obtain ⟨_, _, rfl⟩ := Option.map_eq_some_iff.mp hk
    exact Or.inr (Or.inr ⟨rfl, trivial⟩)
  · exact Or.inl hk

theorem commits_resetAll (g : Graph α) : g.Commits g.resetAll True := by
  intro v k hk
  change (g.vertices.map _)[v]?.map Vertex.order = some k at hk
  rw [Array.getElem?_map, Option.map_map] at hk
  obtain ⟨_, _, rfl⟩ := Option.map_eq_some_iff.mp hk
  exact Or.inr (Or.inr ⟨rfl, trivial⟩)

/-! ## Verifying -/

section Commit

variable {ε : Type} {key value : ε → Nat}

/-- An order after some commits is one of them or was there before. -/
theorem order?_foldl_commits {u k : Nat} :
    ∀ (es : List ε) {g : Graph α},
      (es.foldl (fun g e => g.setOrder (key e) (value e)) g).order? u = some k →
        g.order? u = some k ∨ ∃ e ∈ es, key e = u ∧ value e = k
  | [], _, h => Or.inl h
  | e :: es, g, h => by
    rcases order?_foldl_commits es h with h | ⟨e', he', hcommit⟩
    · have hone : (g.setOrder (key e) (value e)).order? u = some k := h
      unfold order? at hone ⊢
      rw [vertex?_setOrder] at hone
      split at hone
      · rename_i hu
        rw [Option.map_map] at hone
        obtain ⟨_, _, rfl⟩ := Option.map_eq_some_iff.mp hone
        exact Or.inr ⟨e, List.mem_cons_self, hu, rfl⟩
      · exact Or.inl hone
    · exact Or.inr ⟨e', List.mem_cons_of_mem e he', hcommit⟩

/-- Commits of depths leave depths. -/
theorem commits_foldl {es : List ε} (h : ∀ e ∈ es, g.HasDepth (key e) (value e)) :
    g.Commits (es.foldl (fun g e => g.setOrder (key e) (value e)) g) False := by
  intro v k hk
  have hsame : g.OnlyOrders (fun _ => True)
      (es.foldl (fun g e => g.setOrder (key e) (value e)) g) :=
    (OnlyOrders.refl g _).foldl_setOrder fun _ _ => trivial
  rcases order?_foldl_commits es hk with hold | ⟨e, he, rfl, rfl⟩
  · exact Or.inl hold
  · exact Or.inr (Or.inl ((h e he).congr hsame.dependencies))

end Commit

theorem commits_verify (g : Graph α) (vs : List Nat) :
    g.Commits (g.verify vs).1 (¬ g.Acyclic) := by
  rcases g.verify_cases vs with ⟨e, -, hverify⟩ | ⟨-, us, hus, hverify⟩ | ⟨-, f, hf, hverify⟩
  · rw [hverify]
    exact .refl g _
  · -- the list is cleared, but the cycle that was found excuses it
    rw [hverify]
    exact (g.commits_resetEach vs).mono fun _ => (isCycle_of_findSome? hus).1.not_acyclic
  · have hdepths : g.Commits (vs.foldl (fun g v => g.setOrder v (f v)) g) False :=
      commits_foldl hf
    rw [hverify]
    exact hdepths.mono False.elim

theorem commits_verifyRoot (g : Graph α) (root : Nat) :
    g.Commits (g.verifyRoot root).1 (¬ g.Acyclic) := by
  unfold verifyRoot
  split
  · exact .refl g _
  · exact g.commits_verify _

theorem commits_topologicalSort (g : Graph α) (vs : List Nat) :
    g.Commits (g.topologicalSort vs).1 (¬ g.Acyclic) := by
  rw [topologicalSort_fst]
  exact g.commits_verify vs

theorem commits_topologicalOrder (g : Graph α) :
    g.Commits g.topologicalOrder.1 (¬ g.Acyclic) := by
  rw [topologicalOrder_fst]
  exact g.commits_topologicalSort g.ids

theorem commits_resolveOrder (g : Graph α) (v : Nat) : g.Commits (g.resolveOrder v).1 False := by
  unfold resolveOrder
  split
  · rename_i hv
    split
    · exact .refl g _
    · rename_i w hres
      have htrail := (Walk.Truthful.init g g.size).resolve .init (of_decide_eq_true hv)
      rw [hres] at htrail
      exact commits_foldl htrail
  · exact .refl g _

end Graph

/-- **What a call may leave as the order of a vertex.** -/
theorem Action.commits_apply (g : Graph α) (a : Action α) :
    g.Commits (a.apply g) (a.isSafe = true → ¬ g.Acyclic) := by
  cases a with
  | addVertex name payload => exact (g.commits_addVertex name payload).mono False.elim
  | addDependency x y => exact (g.commits_addDependency x y).mono False.elim
  | modifyPayload u f => exact (g.commits_modifyPayload u f).mono False.elim
  | reset u => exact (g.commits_resetEach [u]).mono fun _ hsafe => by cases hsafe
  | resetEach vs => exact (g.commits_resetEach vs).mono fun _ hsafe => by cases hsafe
  | resetAll => exact g.commits_resetAll.mono fun _ hsafe => by cases hsafe
  | verify vs => exact (g.commits_verify vs).mono fun hcyclic _ => hcyclic
  | verifyRoot root => exact (g.commits_verifyRoot root).mono fun hcyclic _ => hcyclic
  | topologicalSort vs => exact (g.commits_topologicalSort vs).mono fun hcyclic _ => hcyclic
  | topologicalOrder => exact g.commits_topologicalOrder.mono fun hcyclic _ => hcyclic
  | resolveOrder u => exact (g.commits_resolveOrder u).mono False.elim

/-- A call drops no edge. -/
theorem Action.extends_apply (g : Graph α) (a : Action α) : g.Extends (a.apply g) :=
  fun v d hd => by
    rw [Action.dependencies_apply]
    exact mem_foldl_addNew.mpr (Or.inl hd)

/-- A call that neither adds an edge nor clears orders keeps the dependencies. -/
theorem Action.dependencies_of_isSafe {g : Graph α} {a : Action α} (h : a.isSafe = true) (v : Nat) :
    (a.apply g).dependencies v = g.dependencies v := by
  have htarget : a.target? g v = none := by
    cases a with
    | addDependency x y => cases h
    | _ => rfl
  rw [Action.dependencies_apply, htarget]
  rfl

namespace Graph

variable {g : Graph α}

/-! ## Orders that a path accounts for -/

/-- Each order is the length of a path through different vertices. -/
def Witnessed (g : Graph α) : Prop :=
  ∀ v k, g.order? v = some k →
    ∃ path, g.IsPath (v :: path) ∧ (v :: path).Nodup ∧ path.length = k

/-- **A call keeps every order accounted for**: paths stay, and depths are lengths of paths. -/
theorem Witnessed.apply (h : g.Witnessed) (a : Action α) : (a.apply g).Witnessed := by
  intro v k hk
  rcases a.commits_apply g v k hk with hold | hdepth | ⟨rfl, -⟩
  · obtain ⟨path, hp, hn, hlength⟩ := h v k hold
    exact ⟨path, hp.imp (a.extends_apply g), hn, hlength⟩
  · obtain ⟨path, hp, hlength⟩ := hdepth.attained
    exact ⟨path, hp, hdepth.nodup hp, hlength⟩
  · exact ⟨[], .singleton v, List.nodup_singleton v, rfl⟩

theorem Witnessed.after (h : g.Witnessed) (actions : List (Action α)) :
    (g.after actions).Witnessed :=
  List.foldlRecOn (motive := Witnessed) actions Action.apply h fun _ hg a _ => hg.apply a

/-- What is known of the order `k` of a vertex, however old it is. -/
structure Attested (g : Graph α) (v k : Nat) : Prop where
  /-- Some path from the vertex has that many edges, and visits no vertex twice. -/
  path : ∃ path, g.IsPath (v :: path) ∧ (v :: path).Nodup ∧ path.length = k
  lt_size : k < g.size
  /-- No list that passes gives the vertex a smaller order. -/
  le_verify : ∀ vs o n, (g.verify vs).2 = .ok o → o.get? v = some n → k ≤ n
  le_resolve : ∀ n, (g.resolveOrder v).2 = .ok n → k ≤ n
  /-- In an acyclic graph all vertices together pass. -/
  le_whole : g.Acyclic → ∃ o n, (g.verify g.ids).2 = .ok o ∧ o.get? v = some n ∧ k ≤ n

/-- **Committed orders never exceed what the edges allow**, whatever calls led to the graph and whether
or not it has a cycle by now. -/
theorem attested_after (actions : List (Action α)) :
    ∀ v ∈ ((empty : Graph α).after actions).ids,
      ∃ k, ((empty : Graph α).after actions).order? v = some k ∧
        ((empty : Graph α).after actions).Attested v k := by
  intro v hv
  have hempty : (empty : Graph α).Witnessed := fun u k hk => by
    cases hk
  obtain ⟨k, hk⟩ := exists_order? (mem_ids.mp hv)
  obtain ⟨path, hp, hn, hlength⟩ := hempty.after actions v k hk
  have hle : ∀ n, ((empty : Graph α).after actions).HasDepth v n → k ≤ n := fun n hdepth => by
    rw [← hlength]
    exact hdepth.bounded path hp
  refine ⟨k, hk, ⟨path, hp, hn, hlength⟩, ?_, fun vs o n ho hget => ?_, fun n hres => ?_, fun h => ?_⟩
  · rw [← hlength]
    exact hp.length_lt hn (mem_ids.mp hv)
  · exact hle n (hasDepth_of_verify ho hget)
  · exact hle n (hasDepth_of_resolveOrder hres)
  · obtain ⟨o, ho⟩ := exists_verify_ids_iff_acyclic.mpr h
    obtain ⟨n, hdepth, hget⟩ := get?_of_verify_ids ho (mem_ids.mp hv)
    exact ⟨o, n, ho, hget, hle n hdepth⟩

/-- A vertex that was verified with its dependency, which then came to depend on it. The order of the
source is older than the cycle, and the failed verification of the other vertex clears nothing. -/
def stale : List (Action Unit) :=
  [.addVertex "a" (), .addVertex "b" (), .addVertex "c" (), .addDependency 0 1, .verify [0, 1],
    .addDependency 1 0, .addDependency 2 0, .resolveOrder 2, .verify [2]]

theorem stale_attested :
    (empty.after stale).order? 0 = some 1 ∧ (empty.after stale).Attested 0 1 ∧
    (empty.after stale).order? 2 = some 0 ∧ (empty.after stale).Attested 2 0 := by
  have h := attested_after stale
  have h₀ : (empty.after stale).order? 0 = some 1 := by cbv
  have h₂ : (empty.after stale).order? 2 = some 0 := by cbv
  obtain ⟨k, hk, hattested⟩ := h 0 (mem_ids.mpr (lt_of_order? h₀))
  obtain ⟨n, hn, hattested'⟩ := h 2 (mem_ids.mpr (lt_of_order? h₂))
  obtain rfl : 1 = k := Option.some.inj (h₀.symm.trans hk)
  obtain rfl : 0 = n := Option.some.inj (h₂.symm.trans hn)
  exact ⟨h₀, hattested, h₂, hattested'⟩

/-! ## Orders that are depths -/

/-- Each order is the depth of its vertex. -/
def Ordered (g : Graph α) : Prop := ∀ v k, g.order? v = some k → g.HasDepth v k

/-- A graph with such orders has no cycle. -/
theorem Ordered.acyclic (h : g.Ordered) : g.Acyclic :=
  acyclic_of_hasDepth fun v hv => by
    obtain ⟨k, hk⟩ := exists_order? hv
    exact ⟨k, h v k hk⟩

/-- **A call that neither adds an edge nor clears orders keeps all orders depths**: those it leaves are
depths still, those it commits are depths, and it cannot fail for a cycle. -/
theorem Ordered.apply (h : g.Ordered) {a : Action α} (hsafe : a.isSafe = true) :
    (a.apply g).Ordered := by
  intro v k hk
  rcases a.commits_apply g v k hk with hold | hdepth | ⟨-, hcyclic⟩
  · exact (h v k hold).congr (Action.dependencies_of_isSafe hsafe)
  · exact hdepth
  · exact absurd h.acyclic (hcyclic hsafe)

theorem Ordered.after {actions : List (Action α)} (h : g.Ordered)
    (hsafe : ∀ a ∈ actions, a.isSafe = true) : (g.after actions).Ordered :=
  List.foldlRecOn (motive := Ordered) actions Action.apply h fun _ hg a ha => hg.apply (hsafe a ha)

/-- Depths committed to all vertices. -/
theorem ordered_foldl_setOrder {vs : List Nat} {f : Nat → Nat} (hall : ∀ v ∈ g.ids, v ∈ vs)
    (hf : ∀ v ∈ vs, g.HasDepth v (f v)) :
    (vs.foldl (fun g v => g.setOrder v (f v)) g).Ordered := by
  intro v k hk
  have hsame : g.OnlyOrders (· ∈ vs) (vs.foldl (fun g v => g.setOrder v (f v)) g) :=
    (OnlyOrders.refl g _).foldl_setOrder fun _ hv => hv
  have hv : v < g.size := by
    rw [← hsame.size]
    exact lt_of_order? hk
  have hmem : v ∈ vs := hall v (mem_ids.mpr hv)
  rw [order?_foldl_setOrder_of_mem hmem hv] at hk
  obtain rfl : f v = k := Option.some.inj hk
  exact (hf v hmem).congr hsame.dependencies

/-- A graph right after all its vertices were verified. -/
inductive FullyVerified : Graph α → Prop where
  | verify {g : Graph α} {vs : List Nat} {o : Orders} (hall : ∀ v ∈ g.ids, v ∈ vs)
    (h : (g.verify vs).2 = .ok o) : FullyVerified (g.verify vs).1
  | topologicalOrder {g : Graph α} {vs : List Nat} (h : g.topologicalOrder.2 = .ok vs) :
    FullyVerified g.topologicalOrder.1

theorem FullyVerified.ordered (h : g.FullyVerified) : g.Ordered := by
  cases h with
  | @verify g vs o hall h =>
    rcases g.verify_cases vs with ⟨e, -, hverify⟩ | ⟨-, us, -, hverify⟩ | ⟨-, f, hf, hverify⟩
    · rw [hverify] at h
      cases h
    · rw [hverify] at h
      cases h
    · rw [hverify]
      exact ordered_foldl_setOrder hall hf
  | @topologicalOrder g vs h =>
    rcases g.topologicalOrder_cases with ⟨c, -, herror⟩ | ⟨f, hf, hsort⟩
    · rw [herror] at h
      cases h
    · rw [hsort]
      exact ordered_foldl_setOrder (fun _ hv => hv) hf

/-- **A fully verified graph stays ordered**: whatever calls follow, as long as none of them adds an edge
or clears an order, each vertex has its depth as its order, so dependencies have smaller ones. -/
theorem orders_stay_depths {actions : List (Action α)} (h : g.FullyVerified)
    (hsafe : ∀ a ∈ actions, a.isSafe = true) :
    (∀ v ∈ (g.after actions).ids,
      ∃ k, (g.after actions).order? v = some k ∧ (g.after actions).HasDepth v k) ∧
    ∀ v, ∀ d ∈ (g.after actions).dependencies v,
      ∃ m n, (g.after actions).order? d = some m ∧ (g.after actions).order? v = some n ∧ m < n := by
  have hordered : (g.after actions).Ordered := h.ordered.after hsafe
  refine ⟨fun v hv => ?_, fun v d hd => ?_⟩
  · obtain ⟨k, hk⟩ := exists_order? (mem_ids.mp hv)
    exact ⟨k, hk, hordered v k hk⟩
  · obtain ⟨m, hm⟩ := exists_order? (dependency_lt hd)
    obtain ⟨n, hn⟩ := exists_order? (lt_of_mem_dependencies hd)
    exact ⟨m, n, hm, hn, (hordered v n hn).lt (hordered d m hm) hd⟩

/-- Calls of every outcome that neither add an edge nor clear an order. -/
def harmless : List (Action Unit) :=
  [.addVertex "e" (), .verify [1], .verify [3, 9], .resolveOrder 1, .verifyRoot 7, .verifyRoot 2,
    .topologicalSort [3, 3], .modifyPayload 0 id, .topologicalOrder]

theorem diamond_stays_ordered :
    (diamond.verify [0, 1, 2, 3]).1.FullyVerified ∧
    ((diamond.verify [0, 1, 2, 3]).1.after harmless).HasDepth 0 2 ∧
    ∃ m n, ((diamond.verify [0, 1, 2, 3]).1.after harmless).order? 2 = some m ∧
      ((diamond.verify [0, 1, 2, 3]).1.after harmless).order? 0 = some n ∧ m < n := by
  have hpass : (diamond.verify [0, 1, 2, 3]).2
      = .ok ⟨#[some 2, some 1, some 1, some 0], by simp⟩ := by cbv
  have hverified : (diamond.verify [0, 1, 2, 3]).1.FullyVerified := .verify (by decide) hpass
  have hsafe : ∀ a ∈ harmless, a.isSafe = true := by simp [harmless, Action.isSafe]
  have horder : ((diamond.verify [0, 1, 2, 3]).1.after harmless).order? 0 = some 2 := by cbv
  have hdeps : ((diamond.verify [0, 1, 2, 3]).1.after harmless).dependencies 0 = [1, 2] := by cbv
  obtain ⟨hdepths, hedges⟩ := orders_stay_depths hverified hsafe
  obtain ⟨k, hk, hdepth⟩ := hdepths 0 (mem_ids.mpr (lt_of_order? horder))
  obtain rfl : 2 = k := Option.some.inj (horder.symm.trans hk)
  exact ⟨hverified, hdepth, hedges 0 2 (by rw [hdeps]; decide)⟩

end Graph

end Lifecycle
