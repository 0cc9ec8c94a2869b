import Lifecycle.CommandLine.Load
import Lifecycle.Proofs.CommandLine.Invocation
import Lifecycle.Proofs.Environment.Colors
import Lifecycle.Proofs.Environment.Loadable
import Mathlib

/-!
# Where the settings of a run come from

A run is configured from five places: its command line, its environment, the files `.env.local` and `.env`,
and the defaults. `SettingOption.chosen` says which of them decides about an option.

**`settings_by_precedence`**: where all that is found can be read (`Setup`), each option has the value that is
chosen for it. The run is configured iff the chosen verbosity is not too high and every variable can hold what
it gets from the files (`nul_in_file_breaks_off` is a run where one cannot). Of the chosen values only the
colour intent `auto` is replaced, by what the colour variables say.
-/

namespace Lifecycle

open Environment EnvironmentFile

/-! ## Colours -/

/-- The colour intent after the colour variables were asked, who have a say if nothing else was chosen. -/
def ColorVariables.settle (colors : ColorVariables) (intent : ColorIntent) : ColorIntent :=
  if intent = .auto then colors.apply .auto else intent

theorem ColorVariables.settle_of_ne {intent : ColorIntent} (h : intent ≠ .auto) (colors : ColorVariables) :
    colors.settle intent = intent := if_neg h

/-- To ask the same variables once more changes nothing. -/
theorem ColorVariables.settle_settle (colors : ColorVariables) (intent : ColorIntent) :
    colors.settle (colors.settle intent) = colors.settle intent := by
  by_cases hintent : intent = .auto
  · subst hintent
    have happly : colors.settle .auto = colors.apply .auto := if_pos rfl
    rw [happly]
    by_cases hauto : colors.apply .auto = .auto
    · rw [hauto, happly, hauto]
    · exact settle_of_ne hauto colors
  · rw [settle_of_ne hintent, settle_of_ne hintent]

namespace Invocation

/-- **Settings are complete iff their verbosity is not too high**; only the colour intent may change. -/
theorem finish_eq_ok_iff {colors : ColorVariables} {i j : Invocation} : i.finish colors = .ok j ↔
    i.config.logLevel ≤ Config.maxLogLevel ∧
      j = { i with config := { i.config with color := colors.settle i.config.color } } := by
  have hconfig : (if i.config.color = .auto then { i.config with color := colors.apply .auto }
      else i.config) = { i.config with color := colors.settle i.config.color } := by
    unfold ColorVariables.settle
    split <;> rfl
  unfold finish
  dsimp only
  rw [hconfig, Config.validate]
  dsimp only
  split_ifs with hlevel
  · exact ⟨fun h => ⟨hlevel, (Except.ok.inj h).symm⟩, fun h => congrArg Except.ok h.2.symm⟩
  · exact iff_of_false (fun h => by cases h) fun h => hlevel h.1

/-- To complete settings once more changes nothing. -/
theorem finish_again {colors : ColorVariables} {i j : Invocation} (h : i.finish colors = .ok j) :
    j.finish colors = .ok j := by
  obtain ⟨hlevel, rfl⟩ := finish_eq_ok_iff.mp h
  refine finish_eq_ok_iff.mpr ⟨hlevel, ?_⟩
  dsimp only
  rw [ColorVariables.settle_settle]

end Invocation

/-! ## Places to find a setting -/

/-- The options that a command line gives, in front of a command or after it. -/
def CommandLine.givenBy (words : List String) : List (SettingOption × SettingValue) :=
  ((CommandLine.ofWords words).toOption.map CommandLine.given).getD []

/-- **The value that is chosen for an option**: the one on the command line, or else the one in the
environment or the files, or else the default. -/
def SettingOption.chosen (read : FileReader) (env : Environment) (words : List String)
    (o : SettingOption) : Except ArgumentError SettingValue :=
  match (CommandLine.givenBy words).lookup o with
  | some v => .ok v
  | none =>
    match env.textFor read o.envName with
    | some text => o.read text
    | none => .ok o.default

/-- The colour variables as the environment and the files have them. -/
def Environment.colorsFor (read : FileReader) (env : Environment) : ColorVariables where
  noColor := env.textFor read "NO_COLOR"
  forceColor := env.textFor read "FORCE_COLOR"
  clicolor := env.textFor read "CLICOLOR"
  ci := env.textFor read "CI"

/-- A run in which all can be read that is found, and whose command line says what it is to do. -/
structure Setup (read : FileReader) (env : Environment) (words : List String) (said : Invocation) :
    Prop where
  /-- No variable of the process has two values. -/
  distinct : env.Distinct
  /-- Each line of the files can be read, or they are not there. -/
  files : ∀ path ∈ standardFiles, FileParses read path
  /-- The command line can be read. -/
  parses : Invocation.parse {} words = .ok said
  /-- It gives each option once at most. -/
  once : ((CommandLine.givenBy words).map Prod.fst).Nodup
  /-- Every text that is found for an option is one that it can have. -/
  valid : ∀ (o : SettingOption) (text : String), (o.envName, text) ∈ env.found read →
    ∃ v, o.read text = .ok v
  /-- No variable that is found differs from a colour variable in the case of its letters only. -/
  spelled : ∀ b ∈ env.found read, ∀ v : ColorVariable, v.IsSpelling b.1 → b.1 = v.name

namespace Setup

variable {read : FileReader} {env : Environment} {words : List String} {said : Invocation}

/-- The chosen value is the one in the environment with what the files assign. -/
theorem chosen_eq (read : FileReader) (env : Environment) (words : List String) (o : SettingOption) :
    o.chosen read env words
      = (o.resolve (env.withFiles read) (CommandLine.givenBy words)).map Sourced.value := by
  rw [SettingOption.chosen, SettingOption.resolve, get?_withFiles]
  cases (CommandLine.givenBy words).lookup o with
  | some v => rfl
  | none =>
    cases env.textFor read o.envName with
    | none => rfl
    | some text =>
      dsimp only
      cases o.read text <;> rfl

theorem validSettings (h : Setup read env words said) : (env.withFiles read).ValidSettings :=
  fun o text htext => h.valid o text (mem_found_of_withFiles (mem_of_get? htext))

/-- The command line is read as the chosen values and the command that it says. -/
theorem exists_config (h : Setup read env words said) : ∃ c : Config,
    Invocation.parse (env.withFiles read) words = .ok ⟨c, said.command⟩ ∧
      ∀ o : SettingOption, o.chosen read env words = .ok (o.get c) := by
  obtain ⟨l, hwords, hcommand⟩ := Invocation.ofWords_of_parse h.parses
  have hgiven : CommandLine.givenBy words = l.given := by
    rw [CommandLine.givenBy, hwords]
    rfl
  obtain ⟨c, hparse, hvalues⟩ := Invocation.exists_parse h.validSettings hwords (hgiven ▸ h.once)
  refine ⟨c, hcommand ▸ hparse, fun o => ?_⟩
  rw [chosen_eq, hgiven]
  exact hvalues o

/-- The colour variables are taken without fault. -/
theorem ofEnvironment_eq (h : Setup read env words said) :
    ColorVariables.ofEnvironment (env.withFiles read) = .ok (env.colorsFor read) := by
  have hdistinct : (env.withFiles read).Distinct := (h.distinct.setEachUnset _).setEachUnset _
  have hcolors : ColorVariables.standard (env.withFiles read) = env.colorsFor read := by
    simp only [ColorVariables.standard, colorsFor, get?_withFiles]
  rw [← hcolors]
  exact ColorVariables.StandardNames.ofEnvironment_eq
    (fun b hb => h.spelled b (mem_found_of_withFiles hb)) hdistinct

/-- **The run is configured iff every variable can hold its value and the chosen values can be completed**,
as which it is configured. -/
theorem load_eq_ok_iff (h : Setup read env words said) {c : Config} {i : Invocation}
    (hparse : Invocation.parse (env.withFiles read) words = .ok ⟨c, said.command⟩) :
    (Invocation.load read env words).2 = .ok i ↔ env.FilesHoldable read ∧
      (Invocation.mk c said.command).finish (env.colorsFor read) = .ok i := by
  have hresolve : Invocation.resolve (env.withFiles read) words
      = (Invocation.mk c said.command).finish (env.colorsFor read) := by
    rw [Invocation.resolve, hparse, h.ofEnvironment_eq]
    rfl
  have hfiles (env' : Environment) : env.loadEach read standardFiles = (env', .ok ()) ↔
      env.FilesHoldable read ∧ env' = env.withFiles read := loadEach_standardFiles_iff h.files
  rcases hload : env.loadEach read standardFiles with ⟨env', result⟩
  rw [Invocation.load, hload]
  cases result with
  | error e =>
    refine iff_of_false (fun hi => by cases hi) fun hi => ?_
    cases hload.symm.trans ((hfiles _).mpr ⟨hi.1, rfl⟩)
  | ok u =>
    obtain ⟨hholds, rfl⟩ := (hfiles env').mp hload
    dsimp only
    rw [hresolve, and_iff_right hholds]

end Setup

/-- **Each option has the value that is chosen for it.** The run is configured iff the chosen verbosity is at
most 4 and no variable gets from the files a text with the character NUL in it, which it cannot hold. Then
the configuration holds the chosen values, but for the colour intent `auto`, in place of which stands what
the colour variables say after the files were loaded; and to complete it once more with the same variables
changes nothing. Any other colour intent is kept whatever the colour variables are. -/
theorem settings_by_precedence {read : FileReader} {env : Environment} {words : List String}
    {said : Invocation} (h : Setup read env words said) : ∃ c : Config,
    (∀ o : SettingOption, o.chosen read env words = .ok (o.get c)) ∧
    ((∃ i, (Invocation.load read env words).2 = .ok i) ↔
      c.logLevel ≤ 4 ∧ env.FilesHoldable read) ∧
    (∀ i, (Invocation.load read env words).2 = .ok i →
      i.command = said.command ∧
      i.config = { c with
        color := if c.color = .auto then (env.colorsFor read).apply .auto else c.color } ∧
      i.finish (env.colorsFor read) = .ok i) ∧
    (c.color ≠ .auto → ∀ (colors : ColorVariables) (i : Invocation),
      (Invocation.mk c said.command).finish colors = .ok i → i.config.color = c.color) := by
  obtain ⟨c, hparse, hchosen⟩ := h.exists_config
  refine ⟨c, hchosen, ?_, fun i hi => ?_, fun hcolor colors i hi => ?_⟩
  · constructor
    · rintro ⟨i, hi⟩
      obtain ⟨hholds, hfinish⟩ := (h.load_eq_ok_iff hparse).mp hi
      exact ⟨(Invocation.finish_eq_ok_iff.mp hfinish).1, hholds⟩
    · rintro ⟨hlevel, hholds⟩
      exact ⟨_, (h.load_eq_ok_iff hparse).mpr
        ⟨hholds, Invocation.finish_eq_ok_iff.mpr ⟨hlevel, rfl⟩⟩⟩
  · obtain ⟨-, hfinish⟩ := (h.load_eq_ok_iff hparse).mp hi
    have hagain := Invocation.finish_again hfinish
    obtain ⟨-, rfl⟩ := Invocation.finish_eq_ok_iff.mp hfinish
    exact ⟨rfl, rfl, hagain⟩
  · obtain ⟨-, rfl⟩ := Invocation.finish_eq_ok_iff.mp hi
    exact ColorVariables.settle_of_ne hcolor colors

/-- Two files: one says that this is continuous integration, the other how to log. -/
def placesReader : FileReader := fun path =>
  if path = ".env.local" then .ok "CI=1".toUTF8
  else if path = ".env" then .ok "FORTRESS_LOG_FORMAT=json".toUTF8
  else .error .notFound

/-- The environment says how to write results. -/
def placesEnv : Environment := ⟨[("FORTRESS_OUTPUT", "json")]⟩

/-- The command line says how much to log. -/
def placesWords : List String := ["--log-level", "3", "graph", "m"]

/-- What is found in the environment and the files. -/
def placesFound : List (String × String) :=
  [("FORTRESS_OUTPUT", "json"), ("CI", "1"), ("FORTRESS_LOG_FORMAT", "json")]

theorem linesIn_places :
    linesIn placesReader ".env.local" = [.ok ['C', 'I', '=', '1']] ∧
      linesIn placesReader ".env" = [.ok "FORTRESS_LOG_FORMAT=json".toList] := by
  constructor
  · show lines "CI=1".toUTF8 = _
    cbv
  · show lines "FORTRESS_LOG_FORMAT=json".toUTF8 = _
    cbv

set_option maxRecDepth 8000 in
theorem assigns_places :
    Assigns placesEnv (linesIn placesReader ".env.local") [("CI", "1")] ∧
      Assigns (placesEnv.setEachUnset [("CI", "1")]) (linesIn placesReader ".env")
        [("FORTRESS_LOG_FORMAT", "json")] := by
  rw [linesIn_places.1, linesIn_places.2]
  exact ⟨.assign (by cbv) (by cbv) (.nil _), .assign (by cbv) (by cbv) (.nil _)⟩

theorem assignments_places :
    placesEnv.localAssignments placesReader = [("CI", "1")] ∧
      placesEnv.sharedAssignments placesReader = [("FORTRESS_LOG_FORMAT", "json")] := by
  have hlocal : placesEnv.localAssignments placesReader = [("CI", "1")] :=
    assigns_places.1.eq_assigned.symm
  refine ⟨hlocal, ?_⟩
  rw [sharedAssignments, hlocal]
  exact assigns_places.2.eq_assigned.symm

theorem found_places : placesEnv.found placesReader = placesFound := by
  rw [found, assignments_places.1, assignments_places.2]
  rfl

theorem fileParses_places : ∀ path ∈ standardFiles, FileParses placesReader path := by
  intro path hpath
  refine ⟨fun cause h => ?_, ?_⟩
  · unfold placesReader at h
    split_ifs at h
    exact (Except.error.inj h).symm
  · simp only [standardFiles, List.mem_cons, List.not_mem_nil, or_false] at hpath
    rcases hpath with rfl | rfl
    · exact assigns_places.1.parses
    · exact assigns_places.2.parses

theorem filesHoldable_places : placesEnv.FilesHoldable placesReader := by
  rw [filesHoldable_iff, assignments_places.1, assignments_places.2]
  exact ⟨assigns_places.1.holdable, assigns_places.2.holdable⟩

theorem setup_places :
    Setup placesReader placesEnv placesWords ⟨{ logLevel := 3 }, some (.graph "m")⟩ where
  distinct := List.nodup_singleton _
  files := fileParses_places
  parses := by cbv
  once := by
    have hgiven : CommandLine.givenBy placesWords = [(.logLevel, .logLevel 3)] := by cbv
    rw [hgiven]
    exact List.nodup_singleton _
  valid := by
    rw [found_places]
    intro o text h
    simp only [placesFound, List.mem_cons, Prod.mk.injEq, List.not_mem_nil, or_false] at h
    obtain ⟨hname, rfl⟩ | ⟨hname, rfl⟩ | ⟨hname, rfl⟩ := h
    · obtain rfl : o = .output := by
        revert hname
        cases o <;> decide
      exact ⟨.output .json, by cbv⟩
    · exact absurd hname (by cases o <;> decide)
    · obtain rfl : o = .logFormat := by
        revert hname
        cases o <;> decide
      exact ⟨.logFormat .json, by cbv⟩
  spelled := by
    rw [found_places]
    intro b hb v
    revert b
    cases v <;> decide +kernel

/-- What the command line, the environment and the files say is what the run is configured with; the colours
are those of continuous integration. -/
theorem places_by_precedence :
    Setup placesReader placesEnv placesWords ⟨{ logLevel := 3 }, some (.graph "m")⟩ ∧
      (Invocation.load placesReader placesEnv placesWords).2
        = .ok ⟨{ logLevel := 3, logFormat := .json, color := .never, output := .json },
            some (.graph "m")⟩ := by
  refine ⟨setup_places, ?_⟩
  obtain ⟨⟨logLevel, logFormat, logOutput, color, output⟩, hchosen, hok, hi, -⟩ :=
    settings_by_precedence setup_places
  simp only [SettingOption.chosen, textFor, colorsFor, assignments_places.1, assignments_places.2]
    at hchosen hi
  obtain rfl : 3 = logLevel := by cases hchosen .logLevel; rfl
  obtain rfl : .json = logFormat := by cases hchosen .logFormat; rfl
  obtain rfl : .stderr = logOutput := by cases hchosen .logOutput; rfl
  obtain rfl : .auto = color := by cases hchosen .color; rfl
  obtain rfl : .json = output := by cases hchosen .output; rfl
  obtain ⟨⟨config, command⟩, hload⟩ := hok.mpr ⟨by decide, filesHoldable_places⟩
  obtain ⟨rfl, rfl, -⟩ := hi _ hload
  exact hload

/-- A file that assigns a text with the character NUL in it. -/
def nulReader : FileReader := fun path =>
  if path = ".env" then .ok "A=x\x00y".toUTF8 else .error .notFound

theorem linesIn_nul : linesIn nulReader ".env.local" = [] ∧
    linesIn nulReader ".env" = [.ok ['A', '=', 'x', '\x00', 'y']] := by
  constructor
  · rfl
  · show lines "A=x\x00y".toUTF8 = _
    cbv

theorem assignments_nul : ({} : Environment).localAssignments nulReader = [] ∧
    ({} : Environment).sharedAssignments nulReader = [("A", "x\x00y")] := by
  have hlocal : ({} : Environment).localAssignments nulReader = [] := by
    rw [localAssignments, linesIn_nul.1]
    rfl
  refine ⟨hlocal, ?_⟩
  rw [sharedAssignments, hlocal, linesIn_nul.2]
  cbv

theorem found_nul : ({} : Environment).found nulReader = [("A", "x\x00y")] := by
  rw [found, assignments_nul.1, assignments_nul.2]
  rfl

theorem setup_nul : Setup nulReader {} ["version"] ⟨{}, some .version⟩ where
  distinct := List.nodup_nil
  files := by
    intro path hpath
    refine ⟨fun cause h => ?_, ?_⟩
    · unfold nulReader at h
      split_ifs at h
      exact (Except.error.inj h).symm
    · simp only [standardFiles, List.mem_cons, List.not_mem_nil, or_false] at hpath
      rcases hpath with rfl | rfl
      · rw [linesIn_nul.1]
        exact parses_nil
      · rw [linesIn_nul.2]
        exact parses_cons.mpr ⟨⟨_, fun _ => "", some ("A", "x\x00y"), rfl, by cbv⟩, parses_nil⟩
  parses := by cbv
  once := by
    have hgiven : CommandLine.givenBy ["version"] = [] := by cbv
    rw [hgiven]
    exact List.nodup_nil
  valid := by
    rw [found_nul]
    intro o text h
    obtain ⟨hname, -⟩ := Prod.mk.inj (List.mem_singleton.mp h)
    exact absurd hname (by cases o <;> decide)
  spelled := by
    rw [found_nul]
    intro b hb v hv
    obtain rfl := List.mem_singleton.mp hb
    exact absurd hv (by cases v <;> decide +kernel)

/-- **That all can be read is not enough.** The one line of the file can be read and no option is given a
value anywhere, but the run breaks off when the variable is to be set. -/
theorem nul_in_file_breaks_off : ∃ c : Config, Setup nulReader {} ["version"] ⟨{}, some .version⟩ ∧
    (∀ o : SettingOption, o.chosen nulReader {} ["version"] = .ok (o.get c)) ∧
    (Invocation.load nulReader {} ["version"]).2 = .error (.environmentFile ⟨".env", .nul "A"⟩) ∧
    ¬ ((∃ i, (Invocation.load nulReader {} ["version"]).2 = .ok i) ↔ c.logLevel ≤ 4) := by
  obtain ⟨⟨logLevel, logFormat, logOutput, color, output⟩, -, hchosen⟩ := setup_nul.exists_config
  have hfile : ({} : Environment).loadFile nulReader ".env" = ({}, .error ⟨".env", .nul "A"⟩) := by
    rw [loadFile, assignmentsIn_of_readable (setup_nul.files ".env" (by decide)).readable, linesIn_nul.2]
    cbv
  have hmissing : ({} : Environment).loadFile nulReader ".env.local" = ({}, .ok ()) := rfl
  have hfiles : ({} : Environment).loadEach nulReader standardFiles
      = ({}, .error ⟨".env", .nul "A"⟩) := by
    simp only [standardFiles, loadEach, hmissing, hfile]
  have hload : (Invocation.load nulReader {} ["version"]).2
      = .error (.environmentFile ⟨".env", .nul "A"⟩) := by
    rw [Invocation.load, hfiles]
  have hdefault := hchosen .logLevel
  simp only [SettingOption.chosen, textFor, assignments_nul.1, assignments_nul.2] at hdefault
  obtain rfl : 0 = logLevel := by cases hdefault; rfl
  refine ⟨_, setup_nul, hchosen, hload, fun hiff => ?_⟩
  obtain ⟨i, hi⟩ := hiff.mpr (Nat.zero_le 4)
  cases hload.symm.trans hi

end Lifecycle
