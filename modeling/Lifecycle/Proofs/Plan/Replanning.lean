import Lifecycle.Proofs.Plan.Startup
import Mathlib

/-!
# Planning a plan once more

A plan can be written down as a manifest that declares each planned component once, in the order in
which they start (`Plan.toManifest`).

* `Manifest.restated` is a manifest that declares listed names of another one, each with all that the
  other one says of it. It says the same of these names (`declarations_restated` and what follows from
  it), and it mentions them in the order of the list if each is listed after those that it requires
  (**`names_restated`**).
* A list of names that is sorted by depth is such a list (`requirement_mem_before`).
* **`plan_toManifest`**: so a plan that is written down is planned as the same plan, but that no
  component is external any more.
-/

namespace Lifecycle

/-- A plan with all components declared. -/
def Plan.declared (p : Plan) : Plan := ⟨p.startup.map fun c => { c with external := false }⟩

namespace Manifest

variable {m : Manifest} {names : List String} {name : String} {f : String → Nat}

/-- All that a manifest says of a name, as one declaration. -/
def restatement (m : Manifest) (name : String) : Component :=
  { name := name, role := m.roleOf name, requires := m.requirementsOf name }

/-- The listed names, each declared once. -/
def restated (m : Manifest) (names : List String) : Manifest := ⟨names.map m.restatement⟩

/-! ## What a restated manifest says of a name -/

theorem declarations_restated (hnodup : names.Nodup) (hname : name ∈ names) :
    (m.restated names).declarations name = [m.restatement name] := by
  have hsame : (fun c : Component => c.name == name) ∘ m.restatement = (· == name) := rfl
  rw [declarations, restated, List.filter_map, hsame, List.filter_beq,
    List.count_eq_one_of_mem hnodup hname]
  rfl

theorem declares_restated (hname : name ∈ names) : (m.restated names).declares name = true :=
  declares_iff.mpr ⟨m.restatement name, List.mem_map_of_mem hname, rfl⟩

theorem roleOf_restated (hnodup : names.Nodup) (hname : name ∈ names) :
    (m.restated names).roleOf name = m.roleOf name := by
  rw [roleOf, declarations_restated hnodup hname]
  exact List.findSome?_singleton

theorem requirementsOf_restated (hnodup : names.Nodup) (hname : name ∈ names) :
    (m.restated names).requirementsOf name = m.requirementsOf name := by
  rw [requirementsOf, declarations_restated hnodup hname, List.flatMap_singleton]
  exact eraseDups_of_nodup (nodup_eraseDups _)

/-- If no name is left out, the same names require each other. -/
theorem requires_restated (hall : ∀ name ∈ m.names, name ∈ names) :
    (m.restated names).Requires = m.Requires := by
  funext name other
  refine propext ⟨?_, fun h => ?_⟩
  · rintro ⟨c, hc, rfl, hother⟩
    obtain ⟨name, -, rfl⟩ := List.mem_map.mp hc
    exact mem_requirementsOf.mp hother
  · exact ⟨m.restatement name, List.mem_map_of_mem (hall name h.mem_names.1), rfl,
      mem_requirementsOf.mpr h⟩

/-- **Names that are listed after all that they require are mentioned in that order.** -/
theorem names_restated (hnodup : names.Nodup)
    (hbefore : ∀ before name after, names = before ++ name :: after →
      m.requirementsOf name ⊆ before) : (m.restated names).names = names := by
  induction names using List.reverseRecOn with
  | nil => rfl
  | append_singleton names name ih =>
    obtain ⟨hfresh, hnodup'⟩ : name ∉ names ∧ names.Nodup := by
      rwa [← List.concat_eq_append, List.nodup_concat] at hnodup
    have hlisted : (m.restated names).names = names :=
      ih hnodup' fun before n after hsplit =>
        hbefore before n (after ++ [name]) (by rw [hsplit, List.append_assoc]; rfl)
    have hmentions : (m.restated (names ++ [name])).components.flatMap Component.mentions
        = (m.restated names).components.flatMap Component.mentions
          ++ name :: m.requirementsOf name := by
      simp [restated, restatement, Component.mentions]
    -- the last name is new, and what it requires is not
    rw [Manifest.names, hmentions, eraseDups_append_eq_foldl]
    show (name :: m.requirementsOf name).foldl addNew (m.restated names).names = names ++ [name]
    rw [hlisted, List.foldl_cons, addNew_of_not_mem hfresh]
    exact foldl_addNew_of_subset fun other hother =>
      List.mem_append_left _ (hbefore names name [] rfl hother)

/-! ## Plans as manifests -/

/-- In a list of names that is sorted by depth, what a name requires stands before it. -/
theorem requirement_mem_before (hf : ∀ name ∈ m.names, m.HasDepth name (f name))
    {before after : List String} (hsplit : stableSort f m.names = before ++ name :: after) :
    m.requirementsOf name ⊆ before := by
  intro other hother
  have hrequires : m.Requires name other := mem_requirementsOf.mp hother
  obtain ⟨hname, hmem⟩ := hrequires.mem_names
  exact mem_before_of_key_lt hsplit hmem ((hf name hname).lt (hf other hmem) hrequires)

theorem toManifest_planBy (m : Manifest) (f : String → Nat) :
    (m.planBy f).toManifest = m.restated (stableSort f m.names) := by
  rw [Plan.toManifest, planBy, List.map_map]
  rfl

/-- The restated names are planned where they stand. -/
theorem planBy_restated (hnodup : names.Nodup) (hnames : (m.restated names).names = names)
    (hsorted : names.Pairwise fun a b => f a ≤ f b) :
    (m.restated names).planBy f
      = ⟨names.map fun name => { m.component (f name) name with external := false }⟩ := by
  have hkept : stableSort f names = names :=
    List.mergeSort_of_pairwise (hsorted.imp decide_eq_true)
  rw [planBy, hnames, hkept]
  congr 1
  refine List.map_congr_left fun name hname => ?_
  rw [component, component, roleOf_restated hnodup hname, requirementsOf_restated hnodup hname,
    declares_restated hname]
  rfl

/-- **A plan that is written down as a manifest is planned as the same plan**: the same names in the
same places, with the same orders, roles and requirements. Only no component is external any more, now
that all are declared. -/
theorem plan_toManifest {p : Plan} (h : m.plan = .ok p) : p.toManifest.plan = .ok p.declared := by
  rcases m.plan_cases with ⟨c, -, hplan⟩ | ⟨f, hf, hplan⟩
  · cases hplan.symm.trans h
  · obtain rfl : m.planBy f = p := Except.ok.inj (hplan.symm.trans h)
    have hnodup : (stableSort f m.names).Nodup :=
      (stableSort_perm f m.names).nodup_iff.mpr m.nodup_names
    have hnames : (m.restated (stableSort f m.names)).names = stableSort f m.names :=
      names_restated hnodup fun _ _ _ => requirement_mem_before hf
    have hdepth : ∀ name ∈ (m.restated (stableSort f m.names)).names,
        (m.restated (stableSort f m.names)).HasDepth name (f name) := fun name hname => by
      rw [hnames, mem_stableSort] at hname
      rw [HasDepth, requires_restated fun _ => mem_stableSort.mpr]
      exact hf name hname
    rw [toManifest_planBy, plan_of_hasDepth hdepth, planBy_restated hnodup hnames pairwise_stableSort,
      Plan.declared, planBy, List.map_map]
    rfl

/-- The plan of the shop, planned once more: `disk` was external. -/
theorem shop_replanned : ∃ p, shop.plan = .ok p ∧
    p.startup.map (fun c => (c.name, c.order, c.external))
      = [("cache", 0, false), ("disk", 0, true), ("db", 1, false), ("web", 2, false)] ∧
    p.toManifest.plan = .ok ⟨[⟨"cache", 0, none, [], false⟩, ⟨"disk", 0, none, [], false⟩,
      ⟨"db", 1, some "store", ["disk"], false⟩,
      ⟨"web", 2, some "front", ["db", "cache", "disk"], false⟩]⟩ := by
  have hshop : shop.plan = .ok ⟨[⟨"cache", 0, none, [], false⟩, ⟨"disk", 0, none, [], true⟩,
      ⟨"db", 1, some "store", ["disk"], false⟩,
      ⟨"web", 2, some "front", ["db", "cache", "disk"], false⟩]⟩ := by cbv
  exact ⟨_, hshop, rfl, plan_toManifest hshop⟩

end Manifest

end Lifecycle
