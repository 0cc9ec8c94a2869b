/-!
# Environments

An `Environment` holds named variables in the order in which they were set. Variables are set at most
once through this interface: what is there stays. So after some assignments **a variable has the value
it had before, or else that of its first assignment** (`Environment.get?_setEachUnset`).
-/

namespace Lifecycle

/-- The variables of a process. -/
structure Environment where
  bindings : List (String × String) := []
  deriving Repr, DecidableEq, Inhabited

namespace Environment

/-- The value of a variable. -/
def get? (env : Environment) (name : String) : Option String := env.bindings.lookup name

/-- The value of a variable, and nothing if it is not set. An environment is kept as texts
`name=value`, so a name with an equals sign in it is one that goes on into the value. -/
def valueOf (env : Environment) (name : String) : String :=
  let text := env.bindings.findSome? fun (k, v) =>
    (name.toList ++ ['=']).isPrefixOf? (k.toList ++ '=' :: v.toList)
  String.ofList (text.getD [])

/-- Whether a variable is set. -/
def contains (env : Environment) (name : String) : Bool := (env.get? name).isSome

/-- Set a variable unless it is set already. -/
def setIfUnset (env : Environment) (name value : String) : Environment :=
  if env.contains name then env else ⟨env.bindings ++ [(name, value)]⟩

/-- Set variables in turn, unless they are set already. -/
def setEachUnset (env : Environment) (assignments : List (String × String)) : Environment :=
  assignments.foldl (fun env (name, value) => env.setIfUnset name value) env

theorem get?_setIfUnset (env : Environment) (name value n : String) :
    (env.setIfUnset name value).get? n = (env.get? n).or (List.lookup n [(name, value)]) := by
  unfold setIfUnset contains
  split
  · rename_i h
    by_cases hn : n = name
    · subst hn
      obtain ⟨v, hv⟩ := Option.isSome_iff_exists.mp h
      rw [hv, Option.some_or]
    · rw [List.lookup_cons, beq_eq_false_iff_ne.mpr hn, List.lookup_nil, Option.or_none]
  · exact List.lookup_append

/-- Between names without an equals sign, `name=` starts `other=value` only if the names are equal. -/
theorem isPrefixOf?_binding {name other : List Char} (value : List Char) (hn : '=' ∉ name)
    (ho : '=' ∉ other) :
    (name ++ ['=']).isPrefixOf? (other ++ '=' :: value) = if name = other then some value else none := by
  induction name generalizing other with
  | nil =>
    cases other with
    | nil => rfl
    | cons c other =>
      have hc : ('=' == c) = false := beq_eq_false_iff_ne.mpr fun h => ho (h ▸ List.mem_cons_self)
      show (if '=' == c then some (other ++ '=' :: value) else none) = _
      rw [hc]
      rfl
  | cons d name ih =>
    cases other with
    | nil =>
      have hd : (d == '=') = false := beq_eq_false_iff_ne.mpr fun h => hn (h ▸ List.mem_cons_self)
      show (if d == '=' then (name ++ ['=']).isPrefixOf? value else none) = _
      rw [hd]
      rfl
    | cons c other =>
      have ih := ih (fun h => hn (List.mem_cons_of_mem d h)) (fun h => ho (List.mem_cons_of_mem c h))
      show (if d == c then (name ++ ['=']).isPrefixOf? (other ++ '=' :: value) else none) = _
      rw [ih]
      by_cases hcd : d = c <;> simp [hcd]

/-- Among names without an equals sign, `valueOf` is the value of the variable of that name. -/
theorem valueOf_eq_get? {env : Environment} {name : String} (hn : '=' ∉ name.toList)
    (hb : ∀ b ∈ env.bindings, '=' ∉ b.1.toList) : env.valueOf name = (env.get? name).getD "" := by
  obtain ⟨bindings⟩ := env
  unfold valueOf get?
  induction bindings with
  | nil => rfl
  | cons b rest ih =>
    obtain ⟨k, v⟩ := b
    have ih := ih fun b hb' => hb b (List.mem_cons_of_mem _ hb')
    have hbind := isPrefixOf?_binding v.toList hn (hb (k, v) List.mem_cons_self)
    by_cases h : name = k
    · subst h
      simp [hbind]
    · have hl : ¬ name.toList = k.toList := fun h' => h (String.toList_inj.mp h')
      simpa [List.findSome?_cons, hbind, hl, List.lookup_cons, beq_eq_false_iff_ne.mpr h] using ih

/-- A variable has the value it had before, or else that of its first assignment. -/
theorem get?_setEachUnset (env : Environment) (assignments : List (String × String)) (n : String) :
    (env.setEachUnset assignments).get? n = (env.get? n).or (assignments.lookup n) := by
  induction assignments generalizing env with
  | nil => exact (Option.or_none).symm
  | cons a rest ih =>
    have hstep : env.setEachUnset (a :: rest) = (env.setIfUnset a.1 a.2).setEachUnset rest := rfl
    have hcons : (a :: rest).lookup n = (List.lookup n [a]).or (rest.lookup n) := by
      rw [← List.singleton_append, List.lookup_append]
    rw [hstep, ih, get?_setIfUnset, hcons, Option.or_assoc]

end Environment

end Lifecycle
