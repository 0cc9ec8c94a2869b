import Lifecycle.Environment.Load
import Lifecycle.Proofs.Environment.Assignment
import Lifecycle.Proofs.Environment.Basic
import Mathlib

/-!
# What environment files set

`Assigns` goes through the lines of a file that can be loaded: each line is read in the environment that
the lines before it leave behind, so that a value may refer to what an earlier line set. What the file
assigns is then the assignments of its lines in order (`assigns_iff`), and the first of them gives a
variable its value (`Assigns.lookup_eq_some_iff`).

**`environment_files_fill_gaps`**: loading the files keeps every variable that is set, also if it fails; if
it succeeds it sets exactly the variables that a line assigns to, and to load the files again changes
nothing.
-/

namespace Lifecycle

namespace EnvironmentFile

/-- A line of a file, or what is wrong with it. -/
abbrev LineRead := Except Fault (List Char)

/-- The lines of the file at a path. A file that cannot be read has none. -/
def linesIn (read : FileReader) (path : String) : List LineRead :=
  match read path with
  | .ok bytes => lines bytes
  | .error _ => []

/-- Whether a line assigns to a variable. -/
def Assigned (ls : List LineRead) (name : String) : Prop :=
  ∃ line, .ok line ∈ ls ∧ assignedName? line = some name

/-- The environment that some lines leave behind. -/
def after (env : Environment) (ls : List LineRead) : Environment :=
  env.setEachUnset (assignments env ls).1

/-- The first line that assigns to a variable gives it a value, in the environment that the lines before
leave behind. -/
def FirstAssigned (env : Environment) (ls : List LineRead) (name value : String) : Prop :=
  ∃ before line rest, ls = before ++ .ok line :: rest ∧ ¬ Assigned before name ∧
    readAssignment (after env before).valueOf line = .ok (some (name, value))

/-- Lines without a fault make these assignments. -/
inductive Assigns : Environment → List LineRead → List (String × String) → Prop
  | nil (env : Environment) : Assigns env [] []
  | skip {env : Environment} {line : List Char} {rest : List LineRead} {as : List (String × String)}
      (hread : readAssignment env.valueOf line = .ok none) (hrest : Assigns env rest as) :
      Assigns env (.ok line :: rest) as
  | assign {env : Environment} {line : List Char} {name value : String} {rest : List LineRead}
      {as : List (String × String)} (hread : readAssignment env.valueOf line = .ok (some (name, value)))
      (hnul : (value.contains '\x00' && !env.contains name) = false)
      (hrest : Assigns (env.setIfUnset name value) rest as) :
      Assigns env (.ok line :: rest) ((name, value) :: as)

variable {env env' : Environment} {line : List Char} {rest ls : List LineRead}
  {as : List (String × String)} {name value : String}

theorem assignments_of_none (h : readAssignment env.valueOf line = .ok none) :
    assignments env (.ok line :: rest) = assignments env rest := by
  rw [assignments, h]

theorem assignments_of_some (h : readAssignment env.valueOf line = .ok (some (name, value)))
    (hnul : (value.contains '\x00' && !env.contains name) = false) :
    assignments env (.ok line :: rest)
      = ((name, value) :: (assignments (env.setIfUnset name value) rest).1,
          (assignments (env.setIfUnset name value) rest).2) := by
  rw [assignments, h]
  dsimp only
  rw [hnul]
  rfl

/-- **What lines without a fault assign.** -/
theorem assigns_iff : Assigns env ls as ↔ assignments env ls = (as, .ok ()) := by
  constructor
  · intro h
    induction h with
    | nil env => rfl
    | skip hread _ ih => rw [assignments_of_none hread, ih]
    | assign hread hnul _ ih => rw [assignments_of_some hread hnul, ih]
  · intro h
    induction ls generalizing env as with
    | nil =>
      cases h
      exact .nil env
    | cons l rest ih =>
      cases l with
      | error fault => cases h
      | ok line =>
        cases hread : readAssignment env.valueOf line with
        | error e =>
          rw [assignments, hread] at h
          cases h
        | ok read =>
          cases read with
          | none =>
            rw [assignments_of_none hread] at h
            exact .skip hread (ih h)
          | some a =>
            obtain ⟨name, value⟩ := a
            cases hnul : value.contains '\x00' && !env.contains name with
            | true =>
              rw [assignments, hread] at h
              dsimp only at h
              rw [hnul] at h
              cases h
            | false =>
              rw [assignments_of_some hread hnul, Prod.mk.injEq] at h
              obtain ⟨rfl, hresult⟩ := h
              exact .assign hread hnul (ih (Prod.ext rfl hresult))

/-! ## The first assignment -/

theorem after_nil (env : Environment) : after env [] = env := rfl

theorem after_of_none (h : readAssignment env.valueOf line = .ok none) (before : List LineRead) :
    after env (.ok line :: before) = after env before := by
  rw [after, after, assignments_of_none h]

theorem after_of_some (h : readAssignment env.valueOf line = .ok (some (name, value)))
    (hnul : (value.contains '\x00' && !env.contains name) = false) (before : List LineRead) :
    after env (.ok line :: before) = after (env.setIfUnset name value) before := by
  rw [after, after, assignments_of_some h hnul]
  rfl

theorem assigned_cons : Assigned (.ok line :: rest) name ↔
    assignedName? line = some name ∨ Assigned rest name := by
  constructor
  · rintro ⟨l, hl, hname⟩
    rcases List.mem_cons.mp hl with h | h
    · obtain rfl := Except.ok.inj h
      exact Or.inl hname
    · exact Or.inr ⟨l, h, hname⟩
  · rintro (hname | ⟨l, hl, hname⟩)
    · exact ⟨line, List.mem_cons_self, hname⟩
    · exact ⟨l, List.mem_cons_of_mem _ hl, hname⟩

theorem not_assigned_nil : ¬ Assigned [] name := fun ⟨_, h, _⟩ => by cases h

/-- A line that assigns to the variable is the first. -/
theorem firstAssigned_cons_self (h : readAssignment env.valueOf line = .ok (some (name, value)))
    {v : String} : FirstAssigned env (.ok line :: rest) name v ↔ value = v := by
  constructor
  · rintro ⟨before, l, after, hls, hbefore, hread⟩
    cases before with
    | nil =>
      obtain ⟨rfl, rfl⟩ : line = l ∧ rest = after := by simpa using hls
      rw [after_nil, h] at hread
      simpa using hread
    | cons b before =>
      rw [List.cons_append, List.cons.injEq] at hls
      rw [← hls.1] at hbefore
      exact absurd (assigned_cons.mpr (Or.inl (assignedName?_of_some h))) hbefore
  · rintro rfl
    exact ⟨[], line, rest, rfl, not_assigned_nil, h⟩

/-- A line that does not assign to the variable does not count, but for the environment that it leaves
behind. -/
theorem firstAssigned_cons_of_ne (hname : assignedName? line ≠ some name)
    (hafter : ∀ before, after env (.ok line :: before) = after env' before) :
    FirstAssigned env (.ok line :: rest) name value ↔ FirstAssigned env' rest name value := by
  constructor
  · rintro ⟨before, l, after, hls, hbefore, hread⟩
    cases before with
    | nil =>
      obtain ⟨rfl, rfl⟩ : line = l ∧ rest = after := by simpa using hls
      exact absurd (assignedName?_of_some hread) hname
    | cons b before =>
      rw [List.cons_append, List.cons.injEq] at hls
      obtain ⟨rfl, rfl⟩ := hls
      rw [hafter] at hread
      exact ⟨before, l, after, rfl, fun h => hbefore (assigned_cons.mpr (Or.inr h)), hread⟩
  · rintro ⟨before, l, after, rfl, hbefore, hread⟩
    refine ⟨.ok line :: before, l, after, rfl, fun h => ?_, ?_⟩
    · exact (assigned_cons.mp h).elim hname hbefore
    · rw [hafter]
      exact hread

namespace Assigns

/-- The names are those that a line assigns to. -/
theorem mem_iff (h : Assigns env ls as) : name ∈ as.map Prod.fst ↔ Assigned ls name := by
  induction h with
  | nil env => exact iff_of_false (by simp) not_assigned_nil
  | skip hread _ ih => rw [ih, assigned_cons, assignedName?_of_none hread]; simp
  | assign hread _ _ ih =>
    rw [List.map_cons, List.mem_cons, ih, assigned_cons, assignedName?_of_some hread, Option.some.injEq,
      eq_comm]

theorem lookup_eq_none_iff (h : Assigns env ls as) : as.lookup name = none ↔ ¬ Assigned ls name := by
  rw [Environment.lookup_eq_none_iff, h.mem_iff]

/-- **The first of the assignments to a variable is that of the first line that assigns to it.** -/
theorem lookup_eq_some_iff (h : Assigns env ls as) :
    as.lookup name = some value ↔ FirstAssigned env ls name value := by
  induction h with
  | nil env =>
    refine iff_of_false (by simp) ?_
    rintro ⟨before, l, after, hls, -⟩
    simp at hls
  | @skip env line rest as hread _ ih =>
    have hname : assignedName? line ≠ some name := by
      rw [assignedName?_of_none hread]
      exact (Option.some_ne_none name).symm
    rw [ih, firstAssigned_cons_of_ne hname (after_of_none hread)]
  | @assign env line other v rest as hread hnul _ ih =>
    by_cases hother : name = other
    · subst hother
      rw [firstAssigned_cons_self hread, List.lookup_cons, beq_self_eq_true]
      exact Option.some_inj
    · have hname : assignedName? line ≠ some name := by
        rw [assignedName?_of_some hread]
        exact fun h => hother (Option.some.inj h).symm
      rw [firstAssigned_cons_of_ne hname (after_of_some hread hnul), List.lookup_cons,
        beq_eq_false_iff_ne.mpr hother]
      exact ih

/-- **To make the assignments once more changes nothing**: their lines are read as before, and what they
set is set already. -/
theorem again (h : Assigns env ls as) (hset : ∀ name ∈ as.map Prod.fst, env'.contains name = true) :
    ∃ as', Assigns env' ls as' ∧ as'.map Prod.fst = as.map Prod.fst := by
  induction h with
  | nil env => exact ⟨[], .nil env', rfl⟩
  | skip hread _ ih =>
    obtain ⟨as', has', hnames⟩ := ih hset
    exact ⟨as', .skip (readAssignment_of_none hread env'.valueOf) has', hnames⟩
  | @assign env line name value rest as hread _ _ ih =>
    rw [List.map_cons, List.forall_mem_cons] at hset
    obtain ⟨as', has', hnames⟩ := ih hset.2
    obtain ⟨value', hread'⟩ := readAssignment_of_some hread env'.valueOf
    have hnul : (value'.contains '\x00' && !env'.contains name) = false := by
      rw [hset.1, Bool.not_true, Bool.and_false]
    have hrest : Assigns (env'.setIfUnset name value') rest as' := by
      rw [Environment.setIfUnset_of_contains hset.1]
      exact has'
    exact ⟨(name, value') :: as', .assign hread' hnul hrest, congrArg (name :: ·) hnames⟩

end Assigns

end EnvironmentFile

namespace Environment

open EnvironmentFile

variable {read : FileReader} {env env' later : Environment} {path : String} {paths : List String}
  {as : List (String × String)} {name value : String}

/-! ## Files -/

/-- A file is there and can be read, or is not there. -/
def Readable (read : FileReader) (path : String) : Prop :=
  ∀ cause, read path = .error cause → cause = .notFound

theorem assignmentsIn_of_readable (h : Readable read path) (env : Environment) :
    assignmentsIn read env path = assignments env (linesIn read path) := by
  unfold assignmentsIn linesIn
  cases hread : read path with
  | ok bytes => rfl
  | error cause =>
    rw [h cause hread]
    rfl

/-- A file is read without fault iff it is not there or its lines have none. -/
theorem assignmentsIn_eq_ok_iff : assignmentsIn read env path = (as, .ok ()) ↔
    Readable read path ∧ Assigns env (linesIn read path) as := by
  constructor
  · intro h
    have hreadable : Readable read path := by
      intro cause hcause
      unfold assignmentsIn at h
      rw [hcause] at h
      cases cause <;> first | rfl | cases h
    rw [assignmentsIn_of_readable hreadable] at h
    exact ⟨hreadable, assigns_iff.mpr h⟩
  · rintro ⟨hreadable, has⟩
    rw [assignmentsIn_of_readable hreadable]
    exact assigns_iff.mp has

/-- **A file is loaded iff it is read without fault**, and then it sets what its lines assign. -/
theorem loadFile_eq_ok_iff : env.loadFile read path = (env', .ok ()) ↔
    ∃ as, assignmentsIn read env path = (as, .ok ()) ∧ env' = env.setEachUnset as := by
  rcases hassign : assignmentsIn read env path with ⟨as, result⟩
  have hload : env.loadFile read path
      = (env.setEachUnset as, result.mapError fun fault => ⟨path, fault⟩) := by
    rw [loadFile, hassign]
  rw [hload]
  constructor
  · intro h
    cases result with
    | error fault => cases h
    | ok u => exact ⟨as, rfl, (Prod.mk.inj h).1.symm⟩
  · rintro ⟨as', heq, rfl⟩
    obtain ⟨rfl, rfl⟩ := Prod.mk.inj heq
    rfl

/-- What setting variables keeps, loading files keeps, whether or not it fails. -/
theorem loadEach_keeps {P : Environment → Prop}
    (hset : ∀ (env : Environment) (as : List (String × String)), P env → P (env.setEachUnset as))
    (h : P env) : P (env.loadEach read paths).1 := by
  induction paths generalizing env with
  | nil => exact h
  | cons path paths ih =>
    rcases hfile : env.loadFile read path with ⟨middle, result⟩
    have hmiddle : P middle := by
      have hfst : env.setEachUnset (assignmentsIn read env path).1 = middle := congrArg Prod.fst hfile
      rw [← hfst]
      exact hset env _ h
    rw [loadEach, hfile]
    cases result with
    | error e => exact hmiddle
    | ok u => exact ih hmiddle

/-- **What is set keeps its value**, whether or not the files can be loaded. -/
theorem get?_loadEach_of_some (h : env.get? name = some value) :
    (env.loadEach read paths).1.get? name = some value := by
  refine loadEach_keeps (P := fun env => env.get? name = some value) (fun env as hget => ?_) h
  rw [get?_setEachUnset, hget, Option.some_or]

theorem Distinct.loadEach (h : env.Distinct) (read : FileReader) (paths : List String) :
    (env.loadEach read paths).1.Distinct :=
  loadEach_keeps (P := Distinct) (fun _ as hdistinct => hdistinct.setEachUnset as) h

/-- Files are loaded iff the first is and then the others are. -/
theorem loadEach_cons_eq_ok_iff : env.loadEach read (path :: paths) = (env', .ok ()) ↔
    ∃ middle, env.loadFile read path = (middle, .ok ()) ∧
      middle.loadEach read paths = (env', .ok ()) := by
  rcases hfile : env.loadFile read path with ⟨middle, result⟩
  rw [loadEach, hfile]
  cases result with
  | error e =>
    refine iff_of_false (fun h => by cases h) ?_
    rintro ⟨_, h, -⟩
    cases h
  | ok u =>
    constructor
    · intro h
      exact ⟨middle, rfl, h⟩
    · rintro ⟨_, h, hrest⟩
      obtain rfl := (Prod.mk.inj h).1
      exact hrest

/-- **Files that were loaded change nothing any more**, also once more is set. -/
theorem loadEach_again (h : env.loadEach read paths = (env', .ok ()))
    (hlater : ∀ name, env'.contains name = true → later.contains name = true) :
    later.loadEach read paths = (later, .ok ()) := by
  induction paths generalizing env with
  | nil => rfl
  | cons path paths ih =>
    obtain ⟨middle, hfile, hrest⟩ := loadEach_cons_eq_ok_iff.mp h
    refine loadEach_cons_eq_ok_iff.mpr ⟨later, ?_, ih hrest⟩
    obtain ⟨as, hassign, rfl⟩ := loadFile_eq_ok_iff.mp hfile
    obtain ⟨hreadable, has⟩ := assignmentsIn_eq_ok_iff.mp hassign
    -- what the file assigned is set from then on
    have hset : ∀ name ∈ as.map Prod.fst, later.contains name = true := by
      intro name hname
      obtain ⟨a, ha, rfl⟩ := List.mem_map.mp hname
      have hassigned : (env.setEachUnset as).contains a.1 = true := contains_setEachUnset_of_mem ha
      obtain ⟨value, hvalue⟩ := contains_eq_true_iff.mp hassigned
      have hkept : ((env.setEachUnset as).loadEach read paths).1.get? a.1 = some value :=
        get?_loadEach_of_some hvalue
      rw [hrest] at hkept
      exact hlater a.1 (contains_eq_true_iff.mpr ⟨value, hkept⟩)
    obtain ⟨as', has', hnames⟩ := has.again hset
    refine loadFile_eq_ok_iff.mpr
      ⟨as', assignmentsIn_eq_ok_iff.mpr ⟨hreadable, has'⟩, (setEachUnset_of_contains ?_).symm⟩
    intro a ha
    exact hset a.1 (hnames ▸ List.mem_map_of_mem ha)

/-! ## The two standard files -/

/-- The standard files are loaded one after the other. -/
theorem loadEach_standardFiles (h : env.loadEach read standardFiles = (env', .ok ())) :
    ∃ middle as bs, env.loadFile read ".env.local" = (middle, .ok ()) ∧
      assignmentsIn read env ".env.local" = (as, .ok ()) ∧
      assignmentsIn read middle ".env" = (bs, .ok ()) ∧
      env' = (env.setEachUnset as).setEachUnset bs := by
  obtain ⟨middle, hlocal, hrest⟩ := loadEach_cons_eq_ok_iff.mp h
  obtain ⟨last, hshared, hnil⟩ := loadEach_cons_eq_ok_iff.mp hrest
  obtain rfl : last = env' := (Prod.mk.inj hnil).1
  obtain ⟨as, has, rfl⟩ := loadFile_eq_ok_iff.mp hlocal
  obtain ⟨bs, hbs, hlast⟩ := loadFile_eq_ok_iff.mp hshared
  exact ⟨_, as, bs, hlocal, has, hbs, hlast⟩

/-- **The first file counts before the second**, and what is set before both. -/
theorem get?_loadEach_standardFiles (h : env.loadEach read standardFiles = (env', .ok ())) (name : String) :
    env'.get? name = (env.get? name).or
      (((assignmentsIn read env ".env.local").1.lookup name).or
        ((assignmentsIn read (env.loadFile read ".env.local").1 ".env").1.lookup name)) := by
  obtain ⟨middle, as, bs, hlocal, has, hbs, rfl⟩ := loadEach_standardFiles h
  rw [get?_setEachUnset, get?_setEachUnset, Option.or_assoc, hlocal, has, hbs]

/-- **Environment files fill gaps.** What is set keeps its value, also if the files cannot be loaded. If
they are loaded, a variable that was not set has the value of the first line of the first file that assigns
to it, or else of the first such line of the second file; no other variable is added; and to load the files
once more changes nothing. -/
theorem environment_files_fill_gaps (read : FileReader) (env : Environment) :
    (∀ name value, env.get? name = some value →
      (env.loadEach read standardFiles).1.get? name = some value) ∧
    ∀ env', env.loadEach read standardFiles = (env', .ok ()) →
      (∀ name value, env.get? name = none → (env'.get? name = some value ↔
        FirstAssigned env (linesIn read ".env.local") name value ∨
          ¬ Assigned (linesIn read ".env.local") name ∧
            FirstAssigned (env.loadFile read ".env.local").1 (linesIn read ".env") name value)) ∧
      (∀ name, env'.contains name = true → env.contains name = true ∨
        Assigned (linesIn read ".env.local") name ∨ Assigned (linesIn read ".env") name) ∧
      env'.loadEach read standardFiles = (env', .ok ()) := by
  refine ⟨fun name value h => get?_loadEach_of_some h, fun env' h => ?_⟩
  have hget := get?_loadEach_standardFiles h
  obtain ⟨middle, as, bs, hlocal, hassign, hassign', -⟩ := loadEach_standardFiles h
  simp only [hlocal, hassign, hassign'] at hget
  have has := (assignmentsIn_eq_ok_iff.mp hassign).2
  have hbs := (assignmentsIn_eq_ok_iff.mp hassign').2
  refine ⟨fun name value hunset => ?_, fun name hset => ?_, loadEach_again h fun _ hname => hname⟩
  · rw [hget, hunset, Option.none_or, hlocal, ← has.lookup_eq_some_iff, ← hbs.lookup_eq_some_iff,
      ← has.lookup_eq_none_iff, Option.or_eq_some_iff]
  · by_contra hneither
    simp only [not_or, ← has.lookup_eq_none_iff, ← hbs.lookup_eq_none_iff] at hneither
    obtain ⟨hunset, hnot, hnot'⟩ := hneither
    rw [Bool.not_eq_true, contains_eq_false_iff] at hunset
    rw [contains, hget, hunset, hnot, hnot'] at hset
    cases hset

/-- Two files: the first assigns to `A`, the second to `A` again, and to `B` by way of `A`. -/
def pairReader : FileReader := fun path =>
  if path = ".env.local" then .ok "A=1".toUTF8
  else if path = ".env" then .ok "A=2\nB=$A".toUTF8
  else .error .notFound

theorem linesIn_pairReader :
    linesIn pairReader ".env.local" = [.ok ['A', '=', '1']] ∧
      linesIn pairReader ".env" = [.ok ['A', '=', '2'], .ok ['B', '=', '$', 'A']] := by
  constructor
  · show lines "A=1".toUTF8 = _
    cbv
  · show lines "A=2\nB=$A".toUTF8 = _
    cbv

set_option maxRecDepth 8000 in
theorem loadEach_pairReader :
    loadEach pairReader {} standardFiles = (⟨[("A", "1"), ("B", "1")]⟩, .ok ()) := by
  have hreadable (path : String) : Readable pairReader path := by
    intro cause h
    unfold pairReader at h
    split_ifs at h
    exact (Except.error.inj h).symm
  have hlocal : Assigns {} (linesIn pairReader ".env.local") [("A", "1")] := by
    rw [linesIn_pairReader.1]
    exact .assign (by cbv) (by cbv) (.nil _)
  have hshared : Assigns ⟨[("A", "1")]⟩ (linesIn pairReader ".env") [("A", "2"), ("B", "1")] := by
    rw [linesIn_pairReader.2]
    exact .assign (by cbv) (by cbv) (.assign (by cbv) (by cbv) (.nil _))
  have hload : loadFile pairReader {} ".env.local" = (⟨[("A", "1")]⟩, .ok ()) :=
    loadFile_eq_ok_iff.mpr ⟨_, assignmentsIn_eq_ok_iff.mpr ⟨hreadable _, hlocal⟩, rfl⟩
  have hload' : loadFile pairReader ⟨[("A", "1")]⟩ ".env" = (⟨[("A", "1"), ("B", "1")]⟩, .ok ()) :=
    loadFile_eq_ok_iff.mpr ⟨_, assignmentsIn_eq_ok_iff.mpr ⟨hreadable _, hshared⟩, rfl⟩
  exact loadEach_cons_eq_ok_iff.mpr ⟨_, hload, loadEach_cons_eq_ok_iff.mpr ⟨_, hload', rfl⟩⟩

/-- In the two files the first assignment to `A` counts, and `B` has its value. -/
theorem pair_fills_gaps :
    loadEach pairReader {} standardFiles = (⟨[("A", "1"), ("B", "1")]⟩, .ok ()) ∧
      (FirstAssigned {} (linesIn pairReader ".env.local") "A" "1" ∨
        ¬ Assigned (linesIn pairReader ".env.local") "A" ∧
          FirstAssigned (loadFile pairReader {} ".env.local").1 (linesIn pairReader ".env") "A" "1") ∧
      loadEach pairReader ⟨[("A", "1"), ("B", "1")]⟩ standardFiles
        = (⟨[("A", "1"), ("B", "1")]⟩, .ok ()) := by
  obtain ⟨hvalues, -, hagain⟩ := (environment_files_fill_gaps pairReader {}).2 _ loadEach_pairReader
  exact ⟨loadEach_pairReader, (hvalues "A" "1" rfl).mp rfl, hagain⟩

end Environment

end Lifecycle
