import Lifecycle.Proofs.Plan.Startup
import Mathlib

/-!
# A line about a component shows what it requires

A line lists requirements above order 0 only; it does not look whether there are any.

* **`Manifest.HasDepth.eq_zero_iff`**: a name has depth 0 iff no declaration of it requires anything.
* `DistinctOf`: the different entries of a list, in the order of first occurrence.
* **`lines_show_requirements`**: so a line about a planned component lists what the declarations of its
  name require, all of it, and has no brackets only if that is nothing.
-/

namespace Lifecycle

/-! ## Different entries -/

section DistinctOf

variable {β : Type} [DecidableEq β]

/-- The different entries of a list, in the order of first occurrence. -/
structure DistinctOf (xs ys : List β) : Prop where
  nodup : ys.Nodup
  mem_iff : ∀ y, y ∈ ys ↔ y ∈ xs
  sorted : ys.Pairwise fun a b => xs.idxOf a < xs.idxOf b

/-- Entries that are kept stand in the order in which they occur first. -/
theorem pairwise_idxOf_eraseDups (xs : List β) :
    xs.eraseDups.Pairwise fun a b => xs.idxOf a < xs.idxOf b := by
  induction xs using List.reverseRecOn with
  | nil => exact List.Pairwise.nil
  | append_singleton xs x ih =>
    have hidx : ∀ a ∈ xs.eraseDups, (xs ++ [x]).idxOf a = xs.idxOf a := fun a ha =>
      List.idxOf_append_of_mem (List.mem_eraseDups.mp ha)
    -- one more entry moves none of the others
    have hold : xs.eraseDups.Pairwise fun a b => (xs ++ [x]).idxOf a < (xs ++ [x]).idxOf b :=
      ih.imp_of_mem fun ha hb hab => by rwa [hidx _ ha, hidx _ hb]
    rw [eraseDups_concat]
    by_cases hx : x ∈ xs.eraseDups
    · rw [addNew_of_mem hx]
      exact hold
    · have hlast : (xs ++ [x]).idxOf x = xs.length := by
        rw [List.idxOf_append_of_notMem fun h => hx (List.mem_eraseDups.mpr h), List.idxOf_cons_self,
          Nat.add_zero]
      rw [addNew_of_not_mem hx, List.pairwise_append]
      refine ⟨hold, List.pairwise_singleton _ x, fun a ha b hb => ?_⟩
      obtain rfl := List.mem_singleton.mp hb
      rw [hidx a ha, hlast]
      exact List.idxOf_lt_length_iff.mpr (List.mem_eraseDups.mp ha)

theorem distinctOf_eraseDups (xs : List β) : DistinctOf xs xs.eraseDups where
  nodup := nodup_eraseDups xs
  mem_iff := fun _ => List.mem_eraseDups
  sorted := pairwise_idxOf_eraseDups xs

end DistinctOf

/-! ## Depth 0 -/

namespace Manifest

variable {m : Manifest} {name : String} {k : Nat}

/-- **A name has depth 0 iff its declarations require nothing.** -/
theorem HasDepth.eq_zero_iff (h : m.HasDepth name k) : k = 0 ↔ m.requirementsOf name = [] := by
  rw [List.eq_nil_iff_forall_not_mem]
  constructor
  · rintro rfl other hother
    have hchain : List.IsChain m.Requires [name, other] :=
      List.isChain_pair.mpr (mem_requirementsOf.mp hother)
    exact absurd (h.bounded [other] hchain) (Nat.not_succ_le_zero 0)
  · intro hnone
    obtain ⟨chain, hchain, rfl⟩ := h.attained
    cases chain with
    | nil => rfl
    | cons other rest =>
      obtain ⟨hstep, -⟩ := List.isChain_cons_cons.mp hchain
      exact absurd (mem_requirementsOf.mpr hstep) (hnone other)

end Manifest

/-! ## Lines -/

namespace PlannedComponent

/-- What a line about a component starts with. -/
def headline (c : PlannedComponent) (position : Nat) : String := s!"#{position} ({c.order}) : {c.name}"

/-- Names in brackets, as a line lists them. -/
def bracketed (names : List String) : String := " [ " ++ ", ".intercalate names ++ " ]"

/-- **If order 0 means that nothing is required, a line lists what is required.** -/
theorem describe_eq {c : PlannedComponent} (h : c.order = 0 ↔ c.requires = []) (position : Nat) :
    c.describe position
      = c.headline position ++ if c.requires = [] then "" else bracketed c.requires := by
  unfold describe
  by_cases hrequires : c.requires = []
  · have hzero : ¬ c.order > 0 := by rw [h.mpr hrequires]; exact Nat.lt_irrefl 0
    rw [if_neg hzero, if_pos hrequires, String.append_empty]
    rfl
  · have hpos : c.order > 0 := Nat.pos_of_ne_zero fun hzero => hrequires (h.mp hzero)
    rw [if_pos hpos, if_neg hrequires, bracketed, ← String.append_assoc, ← String.append_assoc]
    rfl

end PlannedComponent

namespace Manifest

variable {m : Manifest} {p : Plan}

/-- A planned component has order 0 iff it requires nothing. -/
theorem order_eq_zero_iff (hplan : m.plan = .ok p) {c : PlannedComponent} (hc : c ∈ p.startup) :
    c.order = 0 ↔ c.requires = [] := by
  obtain ⟨hdepth, hcomponent⟩ := (planned_of_plan hplan).component c hc
  have hrequires : c.requires = m.requirementsOf c.name := congrArg (·.requires) hcomponent
  rw [hrequires]
  exact hdepth.eq_zero_iff

/-- **No line about a planned component hides a requirement.** Its order is 0 iff it requires nothing.
So a line about it, at any position, lists in brackets what it requires, and has no brackets iff that is
nothing. What it requires are the different names that declarations of it require, in the order of first
occurrence. -/
theorem lines_show_requirements (hplan : m.plan = .ok p) (c : PlannedComponent)
    (hc : c ∈ p.startup) :
    (c.order = 0 ↔ c.requires = []) ∧
    (∀ position, c.describe position = c.headline position ++
      if c.requires = [] then "" else PlannedComponent.bracketed c.requires) ∧
    DistinctOf ((m.declarations c.name).flatMap Component.requires) c.requires := by
  obtain ⟨-, hcomponent⟩ := (planned_of_plan hplan).component c hc
  have hrequires : c.requires = m.requirementsOf c.name := congrArg (·.requires) hcomponent
  have hzero := order_eq_zero_iff hplan hc
  refine ⟨hzero, PlannedComponent.describe_eq hzero, ?_⟩
  rw [hrequires]
  exact distinctOf_eraseDups _

/-- Of the shop, the line about `web` lists what both of its declarations require, and that about `disk`
has no brackets. -/
theorem shop_lines : ∃ p web disk, shop.plan = .ok p ∧ web ∈ p.startup ∧ disk ∈ p.startup ∧
    DistinctOf ["db", "cache", "db", "disk"] web.requires ∧
    web.describe 4 = "#4 (2) : web [ db, cache, disk ]" ∧ disk.describe 2 = "#2 (0) : disk" := by
  have hshop : shop.plan = .ok ⟨[⟨"cache", 0, none, [], false⟩, ⟨"disk", 0, none, [], true⟩,
      ⟨"db", 1, some "store", ["disk"], false⟩,
      ⟨"web", 2, some "front", ["db", "cache", "disk"], false⟩]⟩ := by cbv
  obtain ⟨-, hweb, hdistinct⟩ := lines_show_requirements hshop
    ⟨"web", 2, some "front", ["db", "cache", "disk"], false⟩ (by decide)
  obtain ⟨-, hdisk, -⟩ := lines_show_requirements hshop ⟨"disk", 0, none, [], true⟩ (by decide)
  exact ⟨_, _, _, hshop, by decide, by decide, hdistinct, (hweb 4).trans (by decide),
    (hdisk 2).trans (by decide)⟩

end Manifest

end Lifecycle
