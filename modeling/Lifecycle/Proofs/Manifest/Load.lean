import Lifecycle.Manifest.Load
import Mathlib

/-!
# What it takes to load a manifest

`Manifest.parse` and `Manifest.load` go through several steps and stop at the first that fails.
`parse_eq_ok_iff` and **`load_eq_ok_iff`** tell when none does.
-/

namespace Lifecycle

/-- The bytes of a text hold that text. -/
theorem textOfBytes_toUTF8 (s : String) : textOfBytes s.toUTF8 = .ok s := by
  have hread : String.fromUTF8? s.toUTF8 = some s := by
    simp only [String.fromUTF8?, String.toUTF8_eq_toByteArray, dif_pos s.isValidUTF8]
    rfl
  rw [textOfBytes, hread]

/-- A file that holds the bytes of a text is read as that text. -/
theorem FileReader.readText_of_toUTF8 {read : FileReader} {path s : String}
    (h : read path = .ok s.toUTF8) : read.readText path = .ok s := by
  unfold FileReader.readText
  rw [h]
  exact textOfBytes_toUTF8 s

namespace Manifest

variable {read : FileReader} {path : String} {m : Manifest}

/-- A text is that of a manifest iff it is TOML of the right shape and no name in it is blank. -/
theorem parse_eq_ok_iff {text : String} : parse text path = .ok m ↔
    ∃ entries, Toml.parse? text = some entries ∧
      ofToml entries = .ok m ∧ m.validate path = .ok () := by
  unfold parse
  cases hentries : Toml.parse? text with
  | none => simp
  | some entries =>
    cases hm : ofToml entries with
    | error detail => simp [hm]
    | ok m' =>
      have hparsed : (do m'.validate path; return m') = Except.ok m ↔
          m' = m ∧ m.validate path = .ok () := by
        constructor
        · intro h
          cases hvalid : m'.validate path with
          | error e =>
            rw [hvalid] at h
            cases h
          | ok u =>
            rw [hvalid] at h
            obtain rfl := Except.ok.inj h
            exact ⟨rfl, hvalid⟩
        · rintro ⟨rfl, hvalid⟩
          rw [hvalid]
          rfl
      simp only [hm]
      exact hparsed.trans (by simp [hm])

/-- A manifest is loaded iff its file holds text and the text is that of the manifest. -/
theorem load_eq_ok_iff : load read path = .ok m ↔
    ∃ text, read.readText path = .ok text ∧ parse text path = .ok m := by
  unfold load
  cases read.readText path <;> simp

/-- A manifest can be loaded iff its file holds TOML text of the right shape, in which no name is blank. -/
theorem exists_load_eq_ok_iff : (∃ m, load read path = .ok m) ↔
    ∃ text entries m, read.readText path = .ok text ∧ Toml.parse? text = some entries ∧
      ofToml entries = .ok m ∧ m.validate path = .ok () := by
  simp only [load_eq_ok_iff, parse_eq_ok_iff]
  constructor
  · rintro ⟨m, text, hread, entries, hm⟩
    exact ⟨text, entries, m, hread, hm⟩
  · rintro ⟨text, entries, m, hread, hm⟩
    exact ⟨m, text, hread, entries, hm⟩

end Manifest

end Lifecycle
