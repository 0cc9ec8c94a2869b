import Lifecycle.Environment.Assignment
import Mathlib

/-!
# What a line assigns to

The values of other variables go into the value of an assignment and nowhere else:
**`name_readAssignment`** says that whether a line can be read, and the name it assigns to, are the same
whatever those values are. So a line has a name of its own (`assignedName?`).
-/

namespace Lifecycle.EnvironmentFile

section Shape

variable (resolve resolve' : String → String)

namespace ValueState

/-- What a reader of a value goes by: all but the value so far. -/
def shape (s : ValueState) : Place × Bool := (s.place, s.quotes)

variable {s t : ValueState}

theorem shape_step? (h : s.shape = t.shape) (c : Char) :
    (s.step? resolve c).map shape = (t.step? resolve' c).map shape := by
  obtain ⟨place, quotes, value⟩ := s
  obtain ⟨place', quotes', value'⟩ := t
  obtain ⟨rfl, rfl⟩ : place = place' ∧ quotes = quotes' := Prod.mk.inj h
  cases place with
  | text =>
    simp only [step?, stepText, Option.map_some, Option.some.injEq]
    split_ifs <;> rfl
  | afterBackslash =>
    simp only [step?, stepEscape?]
    split_ifs <;> rfl
  | apostrophes =>
    simp only [step?, Option.map_some, Option.some.injEq]
    split_ifs <;> rfl
  | name reversed =>
    simp only [step?, stepName, Option.map_some, Option.some.injEq]
    split_ifs <;> rfl
  | bracedName reversed =>
    simp only [step?, stepBracedName, Option.map_some, Option.some.injEq]
    split_ifs <;> rfl
  | atEnd =>
    simp only [step?]
    split_ifs <;> rfl

theorem isSome_finish? (h : s.shape = t.shape) :
    (s.finish? resolve).isSome = (t.finish? resolve').isSome := by
  obtain ⟨place, quotes, value⟩ := s
  obtain ⟨place', quotes', value'⟩ := t
  obtain ⟨rfl, rfl⟩ : place = place' ∧ quotes = quotes' := Prod.mk.inj h
  cases place <;> cases quotes <;> rfl

end ValueState

section Reading

variable {resolve : String → String} {whole : List Char} {s s' : ValueState} {index : Nat} {c : Char}
  {cs : List Char}

theorem readValueFrom_comment (h : s.place = .atEnd ∧ c = '#') :
    readValueFrom resolve whole s index (c :: cs) = readValueFrom resolve whole s index [] := by
  conv_lhs => rw [readValueFrom, if_pos h]

theorem readValueFrom_of_step? (h : ¬ (s.place = .atEnd ∧ c = '#')) (hstep : s.step? resolve c = some s') :
    readValueFrom resolve whole s index (c :: cs) = readValueFrom resolve whole s' (index + 1) cs := by
  conv_lhs => rw [readValueFrom, if_neg h, hstep]

theorem readValueFrom_of_step?_eq_none (h : ¬ (s.place = .atEnd ∧ c = '#'))
    (hstep : s.step? resolve c = none) :
    readValueFrom resolve whole s index (c :: cs) = .error ⟨String.ofList whole, index⟩ := by
  rw [readValueFrom, if_neg h, hstep]

end Reading

/-- Whether a value ends well does not depend on the values of variables. -/
theorem outcome_readValueFrom_nil (whole : List Char) {s t : ValueState} (h : s.shape = t.shape)
    (index : Nat) :
    (readValueFrom resolve whole s index []).map (fun _ => ())
      = (readValueFrom resolve' whole t index []).map (fun _ => ()) := by
  have hfinish := ValueState.isSome_finish? resolve resolve' h
  rw [readValueFrom, readValueFrom]
  cases hs : s.finish? resolve with
  | none =>
    rw [hs, Option.isSome_none, eq_comm, Option.isSome_eq_false_iff, Option.isNone_iff_eq_none] at hfinish
    rw [hfinish]
  | some v =>
    rw [hs, Option.isSome_some, eq_comm, Option.isSome_iff_exists] at hfinish
    obtain ⟨w, hw⟩ := hfinish
    rw [hw]
    rfl

/-- Whether a value can be read does not depend on the values of variables. -/
theorem outcome_readValueFrom (whole : List Char) {s t : ValueState} (h : s.shape = t.shape)
    (index : Nat) (cs : List Char) :
    (readValueFrom resolve whole s index cs).map (fun _ => ())
      = (readValueFrom resolve' whole t index cs).map (fun _ => ()) := by
  induction cs generalizing s t index with
  | nil => exact outcome_readValueFrom_nil resolve resolve' whole h index
  | cons c cs ih =>
    have hplace : s.place = t.place := congrArg Prod.fst h
    by_cases hcomment : s.place = .atEnd ∧ c = '#'
    · rw [readValueFrom_comment hcomment, readValueFrom_comment (hplace ▸ hcomment)]
      exact outcome_readValueFrom_nil resolve resolve' whole h index
    · have hcomment' : ¬ (t.place = .atEnd ∧ c = '#') := hplace ▸ hcomment
      have hstep := ValueState.shape_step? resolve resolve' h c
      cases hs : s.step? resolve c with
      | none =>
        rw [hs, Option.map_none, eq_comm, Option.map_eq_none_iff] at hstep
        rw [readValueFrom_of_step?_eq_none hcomment hs, readValueFrom_of_step?_eq_none hcomment' hstep]
      | some s' =>
        rw [hs, Option.map_some, eq_comm, Option.map_eq_some_iff] at hstep
        obtain ⟨t', ht, hshape⟩ := hstep
        rw [readValueFrom_of_step? hcomment hs, readValueFrom_of_step? hcomment' ht]
        exact ih hshape.symm (index + 1)

/-- **A line assigns to the same name whatever the values of variables are**, if it is not faulty; and
that it is not faulty does not depend on them either. -/
theorem name_readAssignment (line : List Char) :
    (readAssignment resolve line).map (Option.map Prod.fst)
      = (readAssignment resolve' line).map (Option.map Prod.fst) := by
  unfold readAssignment
  dsimp only
  split_ifs with hbare
  · rfl
  · cases readName ((Cursor.mk (trimEnd line) 0).skipSpace) with
    | error index => rfl
    | ok read =>
      obtain ⟨name, c⟩ := read
      dsimp only
      split_ifs with hempty
      · rfl
      · have h := outcome_readValueFrom resolve resolve' c.skipSpace.rest (s := {}) (t := {}) rfl 0
          c.skipSpace.rest
        have hname (r : Except LineError String) :
            (r.map fun value => some (name, value)).map (Option.map Prod.fst)
              = (r.map fun _ => ()).map fun _ => some name := by
          cases r <;> rfl
        rw [readValue, readValue, hname, hname, h]

end Shape

/-- The name that a line assigns to, if it is an assignment. -/
def assignedName? (line : List Char) : Option String :=
  ((readAssignment (fun _ => "") line).map (Option.map Prod.fst)).toOption.join

variable {resolve : String → String} {line : List Char} {name value : String}

theorem assignedName?_eq (resolve : String → String) (line : List Char) :
    assignedName? line = ((readAssignment resolve line).map (Option.map Prod.fst)).toOption.join := by
  rw [assignedName?, name_readAssignment _ resolve]

theorem assignedName?_of_some (h : readAssignment resolve line = .ok (some (name, value))) :
    assignedName? line = some name := by
  rw [assignedName?_eq resolve, h]
  rfl

theorem assignedName?_of_none (h : readAssignment resolve line = .ok none) :
    assignedName? line = none := by
  rw [assignedName?_eq resolve, h]
  rfl

/-- An assignment can be read whatever the values of variables are. -/
theorem readAssignment_of_some (h : readAssignment resolve line = .ok (some (name, value)))
    (resolve' : String → String) : ∃ value', readAssignment resolve' line = .ok (some (name, value')) := by
  have hname := name_readAssignment resolve' resolve line
  rw [h] at hname
  match hread : readAssignment resolve' line with
  | .error e => rw [hread] at hname; cases hname
  | .ok none => rw [hread] at hname; cases hname
  | .ok (some (name', value')) =>
    rw [hread] at hname
    obtain rfl : name' = name := Option.some.inj (Except.ok.inj hname)
    exact ⟨value', rfl⟩

/-- A line without an assignment is one whatever the values of variables are. -/
theorem readAssignment_of_none (h : readAssignment resolve line = .ok none)
    (resolve' : String → String) : readAssignment resolve' line = .ok none := by
  have hname := name_readAssignment resolve' resolve line
  rw [h] at hname
  match hread : readAssignment resolve' line with
  | .error e => rw [hread] at hname; cases hname
  | .ok none => rfl
  | .ok (some a) => rw [hread] at hname; cases hname

end Lifecycle.EnvironmentFile
