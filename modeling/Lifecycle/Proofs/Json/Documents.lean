import Lifecycle.Manifest.Json
import Lifecycle.Plan.Basic
import Lifecycle.Proofs.Json.Reader
import Lifecycle.Proofs.Text.PrefixCode
import Mathlib

/-!
# Manifests and plans in JSON

* `field?_of_mem`, `field?_of_not_mem`: if no two members have one key, the fields are the members.
* `Component.ofJson?_toJson`, `Manifest.ofJson?_toJson`: the fields of a component are read back from its
  document, and the components of a manifest from the document of the manifest.
* `PlannedComponent.ofJson?_toJson`: plans are written only, but a planned component can be read back from
  its document, too. So no two plans have the same document (`Plan.toJson_injective`).
* **`Manifest.json_loses_nothing`**: the same of the texts of these documents.
-/

namespace Lifecycle

namespace Json

/-- The number, if the value is a natural one. -/
def nat? : Json → Option Nat
  | .int (.ofNat n) => some n
  | _ => none

/-- The truth value, if the value is one. -/
def bool? : Json → Option Bool
  | .bool b => some b
  | _ => none

theorem strs?_strs (ss : List String) : (strs ss).strs? = some ss :=
  have hstr : ∀ s, str? (str s) = some s := fun _ => rfl
  mapM_map_eq_pure hstr ss

section Field

variable {members : List (String × Json)} {key : String} {v : Json}

theorem countP_key : members.countP (·.1 == key) = (members.map Prod.fst).count key := by
  rw [List.count, List.countP_map]
  rfl

/-- A member is a field if no two members have one key. -/
theorem field?_of_mem (hkeys : (members.map Prod.fst).Nodup) (h : (key, v) ∈ members) :
    field? members key = some (some v) := by
  have hcount : members.countP (·.1 == key) ≤ 1 := by
    rw [countP_key]
    exact List.nodup_iff_count_le_one.mp hkeys key
  have hfind : members.reverse.find? (·.1 == key) = some (key, v) := by
    have hsome : (members.reverse.find? (·.1 == key)).isSome = true :=
      List.find?_isSome.mpr ⟨(key, v), List.mem_reverse.mpr h, beq_self_eq_true key⟩
    obtain ⟨m, hm⟩ := Option.isSome_iff_exists.mp hsome
    have hkey : m.1 = key := by simpa using List.find?_some hm
    have hmem : m ∈ members := List.mem_reverse.mp (List.mem_of_find?_eq_some hm)
    rw [hm, List.inj_on_of_nodup_map hkeys hmem h hkey]
  rw [field?, if_pos hcount, member?, hfind, Option.map_some]

/-- A field is absent if no member has its key. -/
theorem field?_of_not_mem (h : key ∉ members.map Prod.fst) : field? members key = some none := by
  have hcount : members.countP (·.1 == key) ≤ 1 := by
    rw [countP_key, List.count_eq_zero_of_not_mem h]
    exact Nat.zero_le 1
  have hfind : members.reverse.find? (·.1 == key) = none := by
    refine List.find?_eq_none.mpr fun m hm hkey => h ?_
    exact List.mem_map.mpr ⟨m, List.mem_reverse.mp hm, beq_iff_eq.mp hkey⟩
  rw [field?, if_pos hcount, member?, hfind, Option.map_none]

end Field

end Json

namespace Component

/-- Only the fields of an object count. -/
theorem ofJson?_of_fields {members : List (String × Json)} {c : Component}
    (hname : Json.field? members "name" = some (some (.str c.name)))
    (hrole : Json.field? members "role" = some (c.role.map Json.str))
    (hrequires : Json.field? members "requires" = some (some (.strs c.requires))) :
    ofJson? (.obj members) = some c := by
  have hroles : ((c.role.map Json.str).map roleOfJson?).getD (some none) = some c.role := by
    cases c.role <;> rfl
  have hlist : ((some (Json.strs c.requires)).map Json.strs?).getD (some []) = some c.requires :=
    Json.strs?_strs c.requires
  simp only [ofJson?, hname, hrole, hrequires, Option.bind_eq_bind, Option.bind_some, ofFields?, hroles,
    hlist, Json.str?, Option.pure_def]

/-- **A component is read back from its document.** A role that is absent stands in no member, so that it
differs from an empty one. -/
theorem ofJson?_toJson (c : Component) : ofJson? c.toJson = some c := by
  obtain ⟨name, role, requires⟩ := c
  cases role with
  | none =>
    have hkeys : ([("name", Json.str name), ("requires", .strs requires)].map Prod.fst).Nodup := by
      simp
    refine ofJson?_of_fields (Json.field?_of_mem hkeys ?_) (Json.field?_of_not_mem ?_)
      (Json.field?_of_mem hkeys ?_) <;> simp
  | some role =>
    have hkeys : ([("name", Json.str name), ("role", .str role), ("requires", .strs requires)].map
        Prod.fst).Nodup := by simp
    refine ofJson?_of_fields (Json.field?_of_mem hkeys ?_) (Json.field?_of_mem hkeys ?_)
      (Json.field?_of_mem hkeys ?_) <;> simp

end Component

/-- **A manifest is read back from its document.** -/
theorem Manifest.ofJson?_toJson (m : Manifest) : ofJson? m.toJson = some m := by
  have hcomponents : (m.components.map Component.toJson).mapM Component.ofJson? = some m.components :=
    mapM_map_eq_pure Component.ofJson?_toJson m.components
  have hfield : Json.field? [("component", .arr (m.components.map Component.toJson))] "component"
      = some (some (.arr (m.components.map Component.toJson))) :=
    Json.field?_of_mem (List.nodup_singleton _) List.mem_cons_self
  simp only [toJson, ofJson?, hfield, Option.bind_eq_bind, Option.bind_some, ofComponents?,
    Json.items?, hcomponents, Option.pure_def]

namespace PlannedComponent

/-- The planned component in a member of a JSON document. -/
def ofJson? : Json → Option PlannedComponent
  | .obj members => do
    return {
      name := ← (← ← Json.field? members "name").str?
      order := ← (← ← Json.field? members "order").nat?
      role := ← ((← Json.field? members "role").map Component.roleOfJson?).getD (some none)
      requires := ← (← ← Json.field? members "requires").strs?
      external := ← (← ← Json.field? members "external").bool? }
  | _ => none

/-- Only the fields of an object count. -/
theorem ofJson?_of_fields {members : List (String × Json)} {c : PlannedComponent}
    (hname : Json.field? members "name" = some (some (.str c.name)))
    (horder : Json.field? members "order" = some (some (.nat c.order)))
    (hrole : Json.field? members "role" = some (c.role.map Json.str))
    (hrequires : Json.field? members "requires" = some (some (.strs c.requires)))
    (hexternal : Json.field? members "external" = some (some (.bool c.external))) :
    ofJson? (.obj members) = some c := by
  have hroles : ((c.role.map Json.str).map Component.roleOfJson?).getD (some none) = some c.role := by
    cases c.role <;> rfl
  have hnat : (Json.nat c.order).nat? = some c.order := rfl
  simp only [ofJson?, hname, horder, hrole, hrequires, hexternal, Option.bind_eq_bind,
    Option.bind_some, hroles, hnat, Json.strs?_strs, Json.str?, Json.bool?, Option.pure_def]

/-- **A planned component is read back from its document.** -/
theorem ofJson?_toJson (c : PlannedComponent) : ofJson? c.toJson = some c := by
  obtain ⟨name, order, role, requires, external⟩ := c
  cases role with
  | none =>
    have hkeys : ([("name", Json.str name), ("order", .nat order), ("requires", .strs requires),
        ("external", .bool external)].map Prod.fst).Nodup := by simp
    refine ofJson?_of_fields (Json.field?_of_mem hkeys ?_) (Json.field?_of_mem hkeys ?_)
      (Json.field?_of_not_mem ?_) (Json.field?_of_mem hkeys ?_) (Json.field?_of_mem hkeys ?_) <;> simp
  | some role =>
    have hkeys : ([("name", Json.str name), ("order", .nat order), ("role", .str role),
        ("requires", .strs requires), ("external", .bool external)].map Prod.fst).Nodup := by simp
    refine ofJson?_of_fields (Json.field?_of_mem hkeys ?_) (Json.field?_of_mem hkeys ?_)
      (Json.field?_of_mem hkeys ?_) (Json.field?_of_mem hkeys ?_) (Json.field?_of_mem hkeys ?_) <;> simp

/-- So planned components with one document are one. -/
theorem toJson_injective : Function.Injective toJson := fun c d h =>
  Option.some.inj ((ofJson?_toJson c).symm.trans ((congrArg ofJson? h).trans (ofJson?_toJson d)))

end PlannedComponent

theorem Plan.toJson_injective : Function.Injective toJson := by
  rintro ⟨startup⟩ ⟨startup'⟩ h
  simpa [toJson, PlannedComponent.toJson_injective.list_map.eq_iff] using h

/-- **JSON loses nothing.** A manifest is read back from its compact text, whatever its strings hold and
whether its roles are present, empty or absent. Plans have one compact text only if they are one. -/
theorem Manifest.json_loses_nothing :
    (∀ m : Manifest, Manifest.ofJsonText? m.toJson.compact = some m) ∧
      ∀ p q : Plan, p.toJson.compact = q.toJson.compact ↔ p = q := by
  constructor
  · intro m
    rw [Manifest.ofJsonText?, Json.parse?_compact]
    exact Manifest.ofJson?_toJson m
  · intro p q
    rw [Json.compact_injective.eq_iff, Plan.toJson_injective.eq_iff]

end Lifecycle
