import Lifecycle.CommandLine.Words
import Mathlib

/-!
# What the words of a command line give

**`Reading.Legible.readWords`**: whatever the words of a scope are, each option that they give has a value
that was read from a text for that option.
-/

namespace Lifecycle

/-- A computation succeeds iff its first step does and then the rest. -/
theorem bind_eq_ok_iff {ε α β : Type} {x : Except ε α} {f : α → Except ε β} {b : β} :
    (x >>= f) = .ok b ↔ ∃ a, x = .ok a ∧ f a = .ok b := by
  cases x with
  | error e => exact iff_of_false (fun h => by cases h) (by rintro ⟨_, h, -⟩; cases h)
  | ok a =>
    constructor
    · intro h
      exact ⟨a, rfl, h⟩
    · rintro ⟨_, h, hf⟩
      obtain rfl := Except.ok.inj h
      exact hf

namespace Reading

variable {r r' : Reading} {s : Scope} {o : SettingOption} {text : Option String}

/-- Each option that is given has a value that was read from a text for it. -/
def Legible (r : Reading) : Prop := ∀ g ∈ r.given, ∃ text, g.1.read text = .ok g.2

theorem legible_empty : Legible {} := fun g hg => by cases hg

theorem Legible.of_given (h : r.Legible) (hgiven : r'.given = r.given) : r'.Legible := by
  rw [Legible, hgiven]
  exact h

theorem Legible.give (h : r.Legible) (hgive : r.give o text = .ok r') : r'.Legible := by
  unfold Reading.give at hgive
  cases text with
  | none => cases hgive
  | some text =>
    dsimp only at hgive
    split_ifs at hgive
    obtain ⟨v, hread, hresult⟩ := bind_eq_ok_iff.mp hgive
    obtain rfl := Except.ok.inj hresult
    intro g hg
    rcases List.mem_append.mp hg with hold | hnew
    · exact h g hold
    · obtain rfl := List.mem_singleton.mp hnew
      exact ⟨text, hread⟩

theorem Legible.settle (h : r.Legible) (hsettle : r.settle = .ok r') : r'.Legible := by
  unfold Reading.settle at hsettle
  dsimp only at hsettle
  split at hsettle
  case h_1 =>
    obtain rfl := Except.ok.inj hsettle
    exact h.of_given rfl
  case h_2 o text _ =>
    have hsettled : Legible { r with pending := none } := h.of_given rfl
    exact hsettled.give hsettle
  case h_3 text _ =>
    split_ifs at hsettle
    obtain rfl := Except.ok.inj hsettle
    exact h.of_given rfl

theorem Legible.flag (h : r.Legible) {switch : Switch} (hflag : r.flag s switch = .ok r') :
    r'.Legible := by
  obtain ⟨settled, hsettle, hresult⟩ := bind_eq_ok_iff.mp hflag
  have hsettled := h.settle hsettle
  cases switch with
  | help => cases hresult
  | version => cases hresult
  | shutdown =>
    dsimp only at hresult
    split_ifs at hresult
    obtain rfl := Except.ok.inj hresult
    exact hsettled.of_given rfl
  | setting o =>
    obtain rfl := Except.ok.inj hresult
    exact hsettled.of_given rfl

theorem Legible.attach (h : r.Legible) {value : String} (hattach : r.attach o value = .ok r') :
    r'.Legible := by
  obtain ⟨settled, hsettle, hgive⟩ := bind_eq_ok_iff.mp hattach
  exact (h.settle hsettle).give hgive

theorem Legible.long (h : r.Legible) {word : List Char} (hlong : r.long s word = .ok r') :
    r'.Legible := by
  unfold Reading.long at hlong
  dsimp only at hlong
  split at hlong
  · cases hlong
  · exact h.flag hlong
  · exact h.attach hlong
  · cases hlong

theorem Legible.short (h : r.Legible) {word : List Char} (hshort : r.short s word = .ok r') :
    r'.Legible := by
  induction word generalizing r with
  | nil =>
    obtain rfl := Except.ok.inj hshort
    exact h
  | cons c cs ih =>
    unfold Reading.short at hshort
    split at hshort
    · cases hshort
    · exact h.attach hshort
    · exact h.attach hshort
    · obtain ⟨next, hflag, hrest⟩ := bind_eq_ok_iff.mp hshort
      exact ih (h.flag hflag) hrest

theorem Legible.argument (h : r.Legible) {trailing : Bool} {word : String}
    (hargument : r.argument s trailing word = .ok r') : r'.Legible := by
  unfold Reading.argument at hargument
  split_ifs at hargument
  obtain ⟨settled, hsettle, hresult⟩ := bind_eq_ok_iff.mp hargument
  obtain rfl := Except.ok.inj hresult
  exact (h.settle hsettle).of_given rfl

/-- **The options that words give have values that were read for them.** -/
theorem Legible.readWords (h : r.Legible) {trailing : Bool} {words : List String}
    {rest : Option (CommandName × List String)}
    (hread : Scope.readWords s r trailing words = .ok (r', rest)) : r'.Legible := by
  induction words generalizing r trailing with
  | nil =>
    obtain ⟨rfl, -⟩ := Prod.mk.inj (Except.ok.inj hread)
    exact h
  | cons word words ih =>
    unfold Scope.readWords at hread
    split at hread
    case isTrue =>
      obtain ⟨next, hargument, hrest⟩ := bind_eq_ok_iff.mp hread
      exact ih (h.argument hargument) hrest
    case isFalse =>
      dsimp only at hread
      split at hread
      case h_1 =>
        -- a command ends the words of the program
        obtain ⟨rfl, -⟩ := Prod.mk.inj (Except.ok.inj hread)
        exact h
      case h_2 =>
        split at hread
        case isTrue => cases hread
        case isFalse =>
          split at hread
          case h_1 => exact ih h hread
          case h_2 =>
            obtain ⟨next, hlong, hrest⟩ := bind_eq_ok_iff.mp hread
            exact ih (h.long hlong) hrest
          case h_3 =>
            obtain ⟨next, hshort, hrest⟩ := bind_eq_ok_iff.mp hread
            exact ih (h.short hshort) hrest
          case h_4 =>
            refine ih ?_ hread
            exact h.of_given rfl
          case h_5 =>
            obtain ⟨next, hargument, hrest⟩ := bind_eq_ok_iff.mp hread
            exact ih (h.argument hargument) hrest

end Reading

end Lifecycle
