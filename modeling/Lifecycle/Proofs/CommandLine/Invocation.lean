import Lifecycle.CommandLine.Invocation
import Lifecycle.Proofs.CommandLine.Words
import Mathlib

/-!
# What a command line makes of an environment

`CommandLine.ofWords` reads the words of a command line by themselves: a command, and the options that are
given in front of it and after it. Whether this succeeds is all that matters for `Invocation.parse` as long
as the environment holds no text that an option cannot have (`Environment.ValidSettings`).

**`exists_parse`**: then each option has the value that the command line gives it, if it gives it once at
most; or else the one in the environment; or else its default.
-/

namespace Lifecycle

/-- The option that a value is for. -/
def SettingValue.option : SettingValue → SettingOption
  | logLevel _ => .logLevel
  | logFormat _ => .logFormat
  | logOutput _ => .logOutput
  | color _ => .color
  | output _ => .output

/-- Each variable that stands for an option holds a text that the option can have. -/
def Environment.ValidSettings (env : Environment) : Prop :=
  ∀ (o : SettingOption) (text : String), env.get? o.envName = some text → ∃ v, o.read text = .ok v

/-- What a command line says by itself: the options in front of a command, and the command with the options
after it. -/
structure CommandLine where
  outer : List (SettingOption × SettingValue)
  inner : Option (Command × List (SettingOption × SettingValue))

namespace CommandLine

/-- Read the words of a command by themselves. -/
def readCommand (name : CommandName) (words : List String) :
    Except ArgumentError (Command × List (SettingOption × SettingValue)) := do
  let (r, _) ← Scope.readWords (.command name) {} false words
  let r ← r.settle
  return (← Invocation.commandOf name r, r.given)

/-- Read the words of a command line by themselves. -/
def ofWords (words : List String) : Except ArgumentError CommandLine := do
  let (r, rest) ← Scope.readWords .program {} false words
  let inner ← rest.mapM fun (name, words) => readCommand name words
  let r ← r.settle
  return ⟨r.given, inner⟩

/-- The command. -/
def command? (l : CommandLine) : Option Command := l.inner.map Prod.fst

/-- The options after the command. -/
def innerGiven (l : CommandLine) : List (SettingOption × SettingValue) :=
  (l.inner.map Prod.snd).getD []

/-- The options that are given in front of the command and after it. -/
def given (l : CommandLine) : List (SettingOption × SettingValue) := l.outer ++ l.innerGiven

end CommandLine

namespace SettingOption

variable {o : SettingOption} {text : String} {v : SettingValue}

theorem option_of_readChoice {α : Type} [Choice α] {wrap : α → SettingValue}
    (hwrap : ∀ a, (wrap a).option = o) (h : o.readChoice wrap text = .ok v) : v.option = o := by
  unfold readChoice at h
  split at h
  case h_1 a _ =>
    obtain rfl := Except.ok.inj h
    exact hwrap a
  case h_2 => cases h

/-- What is read for an option is a value of that option. -/
theorem option_of_read (h : o.read text = .ok v) : v.option = o := by
  cases o with
  | logLevel =>
    unfold read at h
    dsimp only at h
    split at h
    · obtain rfl := Except.ok.inj h
      rfl
    · cases h
  | logFormat => exact option_of_readChoice (fun _ => rfl) h
  | logOutput => exact option_of_readChoice (fun _ => rfl) h
  | color => exact option_of_readChoice (fun _ => rfl) h
  | output => exact option_of_readChoice (fun _ => rfl) h

theorem option_default (o : SettingOption) : o.default.option = o := by
  cases o <;> rfl

theorem get_set_self {c : Config} (h : v.option = o) : o.get (c.set v) = v := by
  subst h
  cases v <;> rfl

theorem get_set_of_ne {c : Config} (h : v.option ≠ o) : o.get (c.set v) = o.get c := by
  cases v <;> cases o <;> first | rfl | exact absurd rfl h

/-! ## One option in one scope -/

variable {env : Environment} {given outer inner : List (SettingOption × SettingValue)} {s t : Sourced}

theorem resolve_of_given (h : given.lookup o = some v) :
    o.resolve env given = .ok ⟨v, .commandLine⟩ := by
  rw [resolve, h]

theorem resolve_of_environment (h : given.lookup o = none) (htext : env.get? o.envName = some text) :
    o.resolve env given = (o.read text).map fun v => ⟨v, .environment⟩ := by
  rw [resolve, h]
  dsimp only
  rw [htext]

theorem resolve_of_default (h : given.lookup o = none) (htext : env.get? o.envName = none) :
    o.resolve env given = .ok ⟨o.default, .default⟩ := by
  rw [resolve, h]
  dsimp only
  rw [htext]

/-- Without a text that it cannot have, an option has a value in each scope. -/
theorem exists_resolve (hvalid : env.ValidSettings) (given : List (SettingOption × SettingValue))
    (o : SettingOption) : ∃ s, o.resolve env given = .ok s := by
  cases hgiven : given.lookup o with
  | some v => exact ⟨_, resolve_of_given hgiven⟩
  | none =>
    cases htext : env.get? o.envName with
    | none => exact ⟨_, resolve_of_default hgiven htext⟩
    | some text =>
      obtain ⟨v, hread⟩ := hvalid o text htext
      exact ⟨_, (resolve_of_environment hgiven htext).trans (congrArg (Except.map _) hread)⟩

/-- The value of an option is a value of that option. -/
theorem option_of_resolve (hgiven : ∀ g ∈ given, ∃ text, g.1.read text = .ok g.2)
    (h : o.resolve env given = .ok s) : s.value.option = o := by
  cases hlookup : given.lookup o with
  | some v =>
    obtain rfl := Except.ok.inj ((resolve_of_given hlookup).symm.trans h)
    obtain ⟨before, after, hsplit, -⟩ := List.lookup_eq_some_iff.mp hlookup
    obtain ⟨text, hread⟩ := hgiven (o, v) (hsplit ▸ List.mem_append_right _ List.mem_cons_self)
    exact option_of_read hread
  | none =>
    cases htext : env.get? o.envName with
    | none =>
      obtain rfl := Except.ok.inj ((resolve_of_default hlookup htext).symm.trans h)
      exact option_default o
    | some text =>
      rw [resolve_of_environment hlookup htext] at h
      cases hread : o.read text with
      | error e => rw [hread] at h; cases h
      | ok v =>
        rw [hread] at h
        obtain rfl := Except.ok.inj h
        exact option_of_read hread

/-! ## One option in both scopes -/

theorem resolve_congr {given' : List (SettingOption × SettingValue)}
    (h : given.lookup o = given'.lookup o) : o.resolve env given = o.resolve env given' := by
  rw [resolve, resolve, h]

/-- What is not given on the command line counts less than what is. -/
theorem rank_of_resolve (h : given.lookup o = none) (hresolve : o.resolve env given = .ok s) :
    s.source.rank < Source.commandLine.rank := by
  cases htext : env.get? o.envName with
  | none =>
    obtain rfl := Except.ok.inj ((resolve_of_default h htext).symm.trans hresolve)
    exact Nat.zero_lt_two
  | some text =>
    rw [resolve_of_environment h htext] at hresolve
    cases hread : o.read text with
    | error e => rw [hread] at hresolve; cases hresolve
    | ok v =>
      rw [hread] at hresolve
      obtain rfl := Except.ok.inj hresolve
      exact Nat.lt_succ_self 1

theorem mem_of_lookup (h : given.lookup o = some v) : o ∈ given.map Prod.fst := by
  obtain ⟨before, after, rfl, -⟩ := List.lookup_eq_some_iff.mp h
  simp

/-- **Both scopes taken together**: if the options are given once at most, the more important of the values
in the two scopes is the value where all of them are given. -/
theorem resolve_append (honce : ((outer ++ inner).map Prod.fst).Nodup)
    (houter : o.resolve env outer = .ok s) (hinner : o.resolve env inner = .ok t) :
    o.resolve env (outer ++ inner) = .ok (s.merge t) := by
  rw [List.map_append, List.nodup_append] at honce
  have hboth : (outer ++ inner).lookup o = (outer.lookup o).or (inner.lookup o) := List.lookup_append
  cases hout : outer.lookup o with
  | some v =>
    have hin : inner.lookup o = none := by
      by_contra hsome
      obtain ⟨w, hw⟩ := Option.ne_none_iff_exists'.mp hsome
      exact honce.2.2 o (mem_of_lookup hout) o (mem_of_lookup hw) rfl
    have hs : s = ⟨v, .commandLine⟩ := Except.ok.inj (houter.symm.trans (resolve_of_given hout))
    have hrank : t.source.rank < s.source.rank := by
      rw [hs]
      exact rank_of_resolve hin hinner
    rw [Sourced.merge, if_pos hrank, hs]
    exact resolve_of_given (hboth.trans (by rw [hout, Option.some_or]))
  | none =>
    rw [hout, Option.none_or] at hboth
    rw [resolve_congr hboth, hinner, Sourced.merge]
    cases hin : inner.lookup o with
    | some v =>
      have ht : t = ⟨v, .commandLine⟩ := Except.ok.inj (hinner.symm.trans (resolve_of_given hin))
      have hrank : ¬ t.source.rank < s.source.rank := by
        rw [ht]
        exact Nat.lt_asymm (rank_of_resolve hout houter)
      rw [if_neg hrank]
    | none =>
      have hsame : s = t := by
        rw [resolve_congr (hout.trans hin.symm), hinner] at houter
        exact (Except.ok.inj houter).symm
      rw [hsame, ite_self]

end SettingOption

/-! ## All options -/

namespace Invocation

variable {env : Environment} {words : List String}

theorem mapM_some_eq_ok_iff {ε α β : Type} {f : α → Except ε β} {a : α} {b : Option β} :
    (some a).mapM f = .ok b ↔ ∃ c, f a = .ok c ∧ b = some c := by
  have hmap : (some a).mapM f = (f a).map some := rfl
  rw [hmap]
  cases f a with
  | error e => exact iff_of_false (fun h => by cases h) (by rintro ⟨_, h, -⟩; cases h)
  | ok c =>
    constructor
    · intro h
      exact ⟨c, rfl, (Except.ok.inj h).symm⟩
    · rintro ⟨_, h, rfl⟩
      obtain rfl := Except.ok.inj h
      rfl

/-- A configuration made of one value for each of some options has these values. -/
theorem get_foldl_set {f : SettingOption → Sourced} (hf : ∀ o, (f o).value.option = o)
    {o : SettingOption} {os : List SettingOption} (hos : os.Nodup) (c : Config) :
    o.get ((os.map f).foldl (fun c s => c.set s.value) c)
      = if o ∈ os then (f o).value else o.get c := by
  induction os generalizing c with
  | nil => rfl
  | cons p os ih =>
    obtain ⟨hp, hos⟩ := List.nodup_cons.mp hos
    rw [List.map_cons, List.foldl_cons, ih hos]
    by_cases hop : o = p
    · subst hop
      rw [if_neg hp, if_pos List.mem_cons_self, SettingOption.get_set_self (hf o)]
    · have hmem : o ∈ p :: os ↔ o ∈ os := by simp [hop]
      have hne : (f p).value.option ≠ o := fun h => hop (h.symm.trans (hf p))
      simp only [hmem, SettingOption.get_set_of_ne hne]

/-- A configuration made of one value for each option has these values. -/
theorem get_configOf {f : SettingOption → Sourced} (hf : ∀ o, (f o).value.option = o)
    (o : SettingOption) : o.get (configOf (SettingOption.all.map f)) = (f o).value := by
  have hall : o ∈ SettingOption.all := by cases o <;> decide
  rw [configOf, get_foldl_set hf (by decide), if_pos hall]

theorem resolveSettings_eq {given : List (SettingOption × SettingValue)} {f : SettingOption → Sourced}
    (h : ∀ o : SettingOption, o.resolve env given = .ok (f o)) :
    resolveSettings env given = .ok (SettingOption.all.map f) := by
  rw [resolveSettings, funext h]
  exact List.mapM_pure

/-! ## Whole command lines -/

section Command

variable {name : CommandName} {command : Command} {given : List (SettingOption × SettingValue)}

/-- What is read of a command in some environment can be read without it. -/
theorem readCommand_of_parseCommand {settings : List Sourced}
    (h : parseCommand env name words = .ok (command, settings)) :
    ∃ given, CommandLine.readCommand name words = .ok (command, given) := by
  obtain ⟨⟨r, rest⟩, hread, h⟩ := bind_eq_ok_iff.mp h
  obtain ⟨settled, hsettle, h⟩ := bind_eq_ok_iff.mp h
  obtain ⟨_, -, h⟩ := bind_eq_ok_iff.mp h
  obtain ⟨command', hcommand, h⟩ := bind_eq_ok_iff.mp h
  obtain rfl := (Prod.mk.inj (Except.ok.inj h)).1
  refine ⟨settled.given, bind_eq_ok_iff.mpr ⟨(r, rest), hread, ?_⟩⟩
  exact bind_eq_ok_iff.mpr ⟨settled, hsettle, bind_eq_ok_iff.mpr ⟨command', hcommand, rfl⟩⟩

/-- Where every option has a value, a command is read as without the environment. -/
theorem parseCommand_of_readCommand {f : SettingOption → Sourced}
    (hf : ∀ o : SettingOption, o.resolve env given = .ok (f o))
    (h : CommandLine.readCommand name words = .ok (command, given)) :
    parseCommand env name words = .ok (command, SettingOption.all.map f) := by
  obtain ⟨⟨r, rest⟩, hread, h⟩ := bind_eq_ok_iff.mp h
  obtain ⟨settled, hsettle, h⟩ := bind_eq_ok_iff.mp h
  obtain ⟨command', hcommand, h⟩ := bind_eq_ok_iff.mp h
  obtain ⟨rfl, rfl⟩ := Prod.mk.inj (Except.ok.inj h)
  refine bind_eq_ok_iff.mpr ⟨(r, rest), hread, bind_eq_ok_iff.mpr ⟨settled, hsettle, ?_⟩⟩
  refine bind_eq_ok_iff.mpr ⟨_, resolveSettings_eq hf, ?_⟩
  exact bind_eq_ok_iff.mpr ⟨command', hcommand, rfl⟩

theorem legible_readCommand (h : CommandLine.readCommand name words = .ok (command, given)) :
    ∀ g ∈ given, ∃ text, g.1.read text = .ok g.2 := by
  obtain ⟨⟨r, rest⟩, hread, h⟩ := bind_eq_ok_iff.mp h
  obtain ⟨settled, hsettle, h⟩ := bind_eq_ok_iff.mp h
  obtain ⟨_, -, h⟩ := bind_eq_ok_iff.mp h
  obtain rfl := (Prod.mk.inj (Except.ok.inj h)).2
  exact (Reading.legible_empty.readWords hread).settle hsettle

end Command

variable {l : CommandLine} {i : Invocation}

/-- A command line that can be read in some environment can be read without it. -/
theorem ofWords_of_parse (h : parse env words = .ok i) :
    ∃ l, CommandLine.ofWords words = .ok l ∧ l.command? = i.command := by
  obtain ⟨⟨r, rest⟩, hread, h⟩ := bind_eq_ok_iff.mp h
  obtain ⟨inner, hinner, h⟩ := bind_eq_ok_iff.mp h
  obtain ⟨settled, hsettle, h⟩ := bind_eq_ok_iff.mp h
  obtain ⟨_, -, h⟩ := bind_eq_ok_iff.mp h
  cases rest with
  | none =>
    obtain rfl := Except.ok.inj hinner
    obtain rfl := Except.ok.inj h
    refine ⟨⟨settled.given, none⟩, bind_eq_ok_iff.mpr ⟨_, hread, ?_⟩, rfl⟩
    exact bind_eq_ok_iff.mpr ⟨none, rfl, bind_eq_ok_iff.mpr ⟨_, hsettle, rfl⟩⟩
  | some scope =>
    obtain ⟨⟨command, settings⟩, hcommand, rfl⟩ := mapM_some_eq_ok_iff.mp hinner
    obtain ⟨given, hgiven⟩ := readCommand_of_parseCommand hcommand
    obtain rfl := Except.ok.inj h
    refine ⟨⟨settled.given, some (command, given)⟩, bind_eq_ok_iff.mpr ⟨_, hread, ?_⟩, rfl⟩
    refine bind_eq_ok_iff.mpr ⟨some (command, given), mapM_some_eq_ok_iff.mpr ⟨_, hgiven, rfl⟩, ?_⟩
    exact bind_eq_ok_iff.mpr ⟨_, hsettle, rfl⟩

/-- **What a command line makes of an environment** without a text that an option cannot have: if it gives
each option once at most, every option has the value where all of them are given. -/
theorem exists_parse (hvalid : env.ValidSettings) (hwords : CommandLine.ofWords words = .ok l)
    (honce : (l.given.map Prod.fst).Nodup) :
    ∃ c : Config, parse env words = .ok ⟨c, l.command?⟩ ∧
      ∀ o : SettingOption, (o.resolve env l.given).map Sourced.value = .ok (o.get c) := by
  obtain ⟨⟨r, rest⟩, hread, hwords⟩ := bind_eq_ok_iff.mp hwords
  obtain ⟨inner, hinner, hwords⟩ := bind_eq_ok_iff.mp hwords
  obtain ⟨settled, hsettle, hwords⟩ := bind_eq_ok_iff.mp hwords
  obtain rfl := Except.ok.inj hwords
  have houter := (Reading.legible_empty.readWords hread).settle hsettle
  choose f hf using SettingOption.exists_resolve hvalid settled.given
  have hfo (o : SettingOption) : (f o).value.option = o := SettingOption.option_of_resolve houter (hf o)
  cases rest with
  | none =>
    obtain rfl := Except.ok.inj hinner
    refine ⟨configOf (SettingOption.all.map f), bind_eq_ok_iff.mpr ⟨_, hread, ?_⟩, fun o => ?_⟩
    · refine bind_eq_ok_iff.mpr ⟨none, rfl, bind_eq_ok_iff.mpr ⟨_, hsettle, ?_⟩⟩
      exact bind_eq_ok_iff.mpr ⟨_, resolveSettings_eq hf, rfl⟩
    · have hgiven : CommandLine.given ⟨settled.given, none⟩ = settled.given := List.append_nil _
      rw [hgiven, hf o, get_configOf hfo]
      rfl
  | some scope =>
    obtain ⟨⟨command, given⟩, hcommand, rfl⟩ := mapM_some_eq_ok_iff.mp hinner
    choose g hg using SettingOption.exists_resolve hvalid given
    have hgo (o : SettingOption) : (g o).value.option = o :=
      SettingOption.option_of_resolve (legible_readCommand hcommand) (hg o)
    have hmerge (o : SettingOption) : ((f o).merge (g o)).value.option = o := by
      unfold Sourced.merge
      split
      · exact hfo o
      · exact hgo o
    have hzip : List.zipWith Sourced.merge (SettingOption.all.map f) (SettingOption.all.map g)
        = SettingOption.all.map fun o => (f o).merge (g o) := rfl
    refine ⟨configOf (SettingOption.all.map fun o => (f o).merge (g o)),
      bind_eq_ok_iff.mpr ⟨_, hread, ?_⟩, fun o => ?_⟩
    · refine bind_eq_ok_iff.mpr ⟨some (command, SettingOption.all.map g),
        mapM_some_eq_ok_iff.mpr ⟨_, parseCommand_of_readCommand hg hcommand, rfl⟩, ?_⟩
      refine bind_eq_ok_iff.mpr ⟨_, hsettle, bind_eq_ok_iff.mpr ⟨_, resolveSettings_eq hf, ?_⟩⟩
      rw [← hzip]
      rfl
    · have hboth := SettingOption.resolve_append honce (hf o) (hg o)
      rw [get_configOf hmerge]
      exact congrArg (Except.map Sourced.value) hboth

end Invocation

end Lifecycle
