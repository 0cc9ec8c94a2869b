import Lifecycle.Proofs.Environment.Files
import Mathlib

/-!
# Which environment files can be loaded

A file can be loaded if it is not there, or if each of its lines can be read and nothing that it is to set
holds the character NUL, which no variable can hold.

* `EnvironmentFile.Parses`: each line can be read, whatever the values of variables are.
* `EnvironmentFile.assigned`: what lines assign, with no regard to whether a variable can hold it.
* **`assigns_assigned_iff`**: a file sets what its lines assign iff they can be read and every variable that
  is to be set can hold its value (`Environment.Holdable`).
* **`loadEach_standardFiles_iff`**: the same of the two standard files, where the value that a variable is to
  have is that of `Environment.textFor`.
-/

namespace Lifecycle

namespace EnvironmentFile

/-- Each line can be read. The values of variables, which may go into the value of a line, do not matter. -/
def Parses (ls : List LineRead) : Prop :=
  ∀ l ∈ ls, ∃ line resolve found, l = .ok line ∧ readAssignment resolve line = .ok found

/-- The assignment in a line, if it can be read and is one. -/
def assignmentOf? (env : Environment) : LineRead → Option (String × String)
  | .ok line => (readAssignment env.valueOf line).toOption.join
  | .error _ => none

/-- What lines assign, each read in the environment that the lines before leave behind. -/
def assigned (env : Environment) : List LineRead → List (String × String)
  | [] => []
  | l :: rest =>
    match assignmentOf? env l with
    | none => assigned env rest
    | some a => a :: assigned (env.setIfUnset a.1 a.2) rest

end EnvironmentFile

/-- No variable that is not set is to have a value with the character NUL in it. -/
def Environment.Holdable (env : Environment) (as : List (String × String)) : Prop :=
  ∀ name value, env.get? name = none → as.lookup name = some value → value.contains '\x00' = false

namespace EnvironmentFile

variable {env : Environment} {line : List Char} {l : LineRead} {rest ls : List LineRead}
  {as : List (String × String)} {name value : String}

/-! ## Lines -/

theorem parses_nil : Parses [] := fun _ h => absurd h List.not_mem_nil

theorem parses_cons : Parses (l :: rest) ↔
    (∃ line resolve found, l = .ok line ∧ readAssignment resolve line = .ok found) ∧ Parses rest :=
  List.forall_mem_cons

theorem assigned_of_none (h : readAssignment env.valueOf line = .ok none) :
    assigned env (.ok line :: rest) = assigned env rest := by
  rw [assigned, assignmentOf?, h]
  rfl

theorem assigned_of_some (h : readAssignment env.valueOf line = .ok (some (name, value))) :
    assigned env (.ok line :: rest) = (name, value) :: assigned (env.setIfUnset name value) rest := by
  rw [assigned, assignmentOf?, h]
  rfl

/-- One more assignment in front: its own value counts if the variable is not set, and it is set for the
others. -/
theorem holdable_cons : env.Holdable ((name, value) :: as) ↔
    (value.contains '\x00' && !env.contains name) = false ∧ (env.setIfUnset name value).Holdable as := by
  have hget (n : String) : (env.setIfUnset name value).get? n = none ↔
      env.get? n = none ∧ n ≠ name := by
    rw [Environment.get?_setIfUnset, Option.or_eq_none_iff, Environment.lookup_eq_none_iff]
    simp
  constructor
  · intro h
    refine ⟨?_, fun n v hn hv => ?_⟩
    · cases hset : env.contains name with
      | true => simp
      | false =>
        rw [h name value (Environment.contains_eq_false_iff.mp hset) (by simp)]
        rfl
    · obtain ⟨hunset, hne⟩ := (hget n).mp hn
      refine h n v hunset ?_
      rwa [List.lookup_cons, beq_eq_false_iff_ne.mpr hne]
  · rintro ⟨hnul, has⟩ n v hn hv
    by_cases hname : n = name
    · subst hname
      obtain rfl : value = v := by simpa using hv
      rwa [Environment.contains_eq_false_iff.mpr hn, Bool.not_false, Bool.and_true] at hnul
    · rw [List.lookup_cons, beq_eq_false_iff_ne.mpr hname] at hv
      exact has n v ((hget n).mpr ⟨hn, hname⟩) hv

namespace Assigns

/-- What lines without a fault set is what they assign. -/
theorem eq_assigned (h : Assigns env ls as) : as = assigned env ls := by
  induction h with
  | nil env => rfl
  | skip hread _ ih => rw [assigned_of_none hread, ih]
  | assign hread _ _ ih => rw [assigned_of_some hread, ih]

theorem parses (h : Assigns env ls as) : Parses ls := by
  induction h with
  | nil env => exact parses_nil
  | skip hread _ ih => exact parses_cons.mpr ⟨⟨_, _, _, rfl, hread⟩, ih⟩
  | assign hread _ _ ih => exact parses_cons.mpr ⟨⟨_, _, _, rfl, hread⟩, ih⟩

theorem holdable (h : Assigns env ls as) : env.Holdable as := by
  induction h with
  | nil env => exact fun n v _ hv => by cases hv
  | skip _ _ ih => exact ih
  | assign _ hnul _ ih => exact holdable_cons.mpr ⟨hnul, ih⟩

end Assigns

/-- **Lines set what they assign iff they can be read and every variable can hold its value.** -/
theorem assigns_assigned_iff :
    Assigns env ls (assigned env ls) ↔ Parses ls ∧ env.Holdable (assigned env ls) := by
  constructor
  · exact fun h => ⟨h.parses, h.holdable⟩
  · rintro ⟨hparses, hholds⟩
    induction ls generalizing env with
    | nil => exact .nil env
    | cons l rest ih =>
      obtain ⟨⟨line, resolve, found, rfl, hread⟩, hrest⟩ := parses_cons.mp hparses
      -- the line reads as an assignment or not, whatever the values of variables are
      cases found with
      | none =>
        have hnone := readAssignment_of_none hread env.valueOf
        rw [assigned_of_none hnone] at hholds ⊢
        exact .skip hnone (ih hrest hholds)
      | some a =>
        obtain ⟨name, value⟩ := a
        obtain ⟨value', hsome⟩ := readAssignment_of_some hread env.valueOf
        rw [assigned_of_some hsome] at hholds ⊢
        obtain ⟨hnul, hholds⟩ := holdable_cons.mp hholds
        exact .assign hsome hnul (ih hrest hholds)

end EnvironmentFile

namespace Environment

open EnvironmentFile

variable {read : FileReader} {env env' : Environment} {path : String}

/-! ## Files -/

/-- The file at a path can be read line by line, or is not there. -/
structure FileParses (read : FileReader) (path : String) : Prop where
  readable : Readable read path
  lines : Parses (linesIn read path)

/-- **A file that can be read is loaded iff every variable can hold its value.** -/
theorem FileParses.loadFile_eq_ok_iff (h : FileParses read path) :
    env.loadFile read path = (env', .ok ()) ↔
      env.Holdable (assigned env (linesIn read path)) ∧
        env' = env.setEachUnset (assigned env (linesIn read path)) := by
  rw [Environment.loadFile_eq_ok_iff]
  constructor
  · rintro ⟨as, hfile, rfl⟩
    have has := (assignmentsIn_eq_ok_iff.mp hfile).2
    obtain rfl := has.eq_assigned
    exact ⟨(assigns_assigned_iff.mp has).2, rfl⟩
  · rintro ⟨hholds, rfl⟩
    have has := assigns_assigned_iff.mpr ⟨h.lines, hholds⟩
    exact ⟨_, assignmentsIn_eq_ok_iff.mpr ⟨h.readable, has⟩, rfl⟩

/-! ## The standard files -/

/-- The assignments in the file `.env.local`. -/
def localAssignments (read : FileReader) (env : Environment) : List (String × String) :=
  assigned env (linesIn read ".env.local")

/-- The assignments in the file `.env`, which is read after the other one. -/
def sharedAssignments (read : FileReader) (env : Environment) : List (String × String) :=
  assigned (env.setEachUnset (localAssignments read env)) (linesIn read ".env")

/-- All variables that the environment and the files hold, with their values. -/
def found (read : FileReader) (env : Environment) : List (String × String) :=
  env.bindings ++ (localAssignments read env ++ sharedAssignments read env)

/-- The text for a variable: that of the environment counts before the first assignment in `.env.local`, and
that before the first assignment in `.env`. -/
def textFor (read : FileReader) (env : Environment) (name : String) : Option String :=
  (env.get? name).or
    (((localAssignments read env).lookup name).or ((sharedAssignments read env).lookup name))

/-- The environment with what the files assign. -/
def withFiles (read : FileReader) (env : Environment) : Environment :=
  (env.setEachUnset (localAssignments read env)).setEachUnset (sharedAssignments read env)

theorem get?_withFiles (read : FileReader) (env : Environment) (name : String) :
    (env.withFiles read).get? name = env.textFor read name := by
  rw [withFiles, get?_setEachUnset, get?_setEachUnset, Option.or_assoc, textFor]

/-- Nothing is bound then that was not found. -/
theorem mem_found_of_withFiles {b : String × String} (h : b ∈ (env.withFiles read).bindings) :
    b ∈ env.found read := by
  rw [found, List.mem_append, List.mem_append]
  rcases mem_setEachUnset h with hmiddle | hshared
  · exact (mem_setEachUnset hmiddle).imp_right Or.inl
  · exact Or.inr (Or.inr hshared)

/-- No variable that the environment lacks gets from the files a text with the character NUL in it. -/
def FilesHoldable (read : FileReader) (env : Environment) : Prop :=
  ∀ name text, env.get? name = none → env.textFor read name = some text → text.contains '\x00' = false

/-- A variable that the first file leaves out has its value from the second. -/
theorem filesHoldable_iff : env.FilesHoldable read ↔
    env.Holdable (localAssignments read env) ∧
      (env.setEachUnset (localAssignments read env)).Holdable (sharedAssignments read env) := by
  constructor
  · intro h
    refine ⟨fun name text hunset htext => h name text hunset ?_, fun name text hunset htext => ?_⟩
    · rw [textFor, hunset, htext, Option.none_or, Option.some_or]
    · rw [get?_setEachUnset, Option.or_eq_none_iff] at hunset
      exact h name text hunset.1 (by rw [textFor, hunset.1, hunset.2, Option.none_or, Option.none_or, htext])
  · rintro ⟨hlocal, hshared⟩ name text hunset htext
    rw [textFor, hunset, Option.none_or] at htext
    rcases Option.or_eq_some_iff.mp htext with hfirst | ⟨hnone, hsecond⟩
    · exact hlocal name text hunset hfirst
    · refine hshared name text ?_ hsecond
      rw [get?_setEachUnset, hunset, hnone, Option.none_or]

/-- **Files that can be read are loaded iff every variable can hold its value.** -/
theorem loadEach_standardFiles_iff (h : ∀ path ∈ standardFiles, FileParses read path) :
    env.loadEach read standardFiles = (env', .ok ()) ↔
      env.FilesHoldable read ∧ env' = env.withFiles read := by
  have hlocal : FileParses read ".env.local" := h _ (by simp [standardFiles])
  have hshared : FileParses read ".env" := h _ (by simp [standardFiles])
  rw [standardFiles, loadEach_cons_eq_ok_iff, filesHoldable_iff]
  constructor
  · rintro ⟨middle, hfirst, hrest⟩
    obtain ⟨last, hsecond, hnil⟩ := loadEach_cons_eq_ok_iff.mp hrest
    obtain rfl : last = env' := (Prod.mk.inj hnil).1
    obtain ⟨hholds, rfl⟩ := hlocal.loadFile_eq_ok_iff.mp hfirst
    obtain ⟨hholds', rfl⟩ := hshared.loadFile_eq_ok_iff.mp hsecond
    exact ⟨⟨hholds, hholds'⟩, rfl⟩
  · rintro ⟨⟨hholds, hholds'⟩, rfl⟩
    refine ⟨_, hlocal.loadFile_eq_ok_iff.mpr ⟨hholds, rfl⟩, loadEach_cons_eq_ok_iff.mpr ⟨_, ?_, rfl⟩⟩
    exact hshared.loadFile_eq_ok_iff.mpr ⟨hholds', rfl⟩

end Environment

end Lifecycle
