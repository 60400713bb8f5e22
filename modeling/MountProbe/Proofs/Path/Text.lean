import MountProbe.Mount.Label
import MountProbe.Proofs.Text.Utf8

namespace MountProbe

namespace Path

def isText (p : Path) : Bool :=
  p.raw.text?.isSome

theorem isText_eq_false {p : Path} (no_text : p.isText = false) : p.raw.text? = none := by
  simpa [isText] using no_text

theorem text?_eq_some {p : Path} {s : String} : p.raw.text? = some s ↔ p = ofString s := by
  rw [Bytes.text?, Option.map_eq_some_iff]
  constructor
  · rintro ⟨cs, decoded, rfl⟩
    cases p
    rw [Text.decode?_eq_some] at decoded
    rw [ofString, String.toList_ofList, ← decoded]
  · rintro rfl
    exact ⟨s.toList, Text.decode?_eq_some.mpr rfl, String.ofList_toList⟩

theorem isText_ofString (s : String) : (ofString s).isText = true := by
  rw [isText, text?_eq_some.mpr rfl]
  rfl

end Path

def unwritablePath : Failure :=
  .serialization "serde_json" "path contains invalid UTF-8 characters"

namespace Mount.Label

theorem pathJson_of_text {p : Path} (text : p.isText = true) : ∃ v, pathJson p = .ok v := by
  obtain ⟨s, spelled⟩ := Option.isSome_iff_exists.mp text
  exact ⟨.text s, by rw [pathJson, spelled]⟩

theorem pathJson_of_no_text {p : Path} (no_text : p.isText = false) :
    pathJson p = .error unwritablePath := by
  rw [pathJson, Path.isText_eq_false no_text]
  rfl

theorem pathJson_eq_ok {p : Path} {v : Json} :
    pathJson p = .ok v ↔ ∃ s, p = .ofString s ∧ v = .text s := by
  constructor
  · intro written
    unfold pathJson at written
    split at written
    · rename_i s spelled
      cases written
      exact ⟨s, Path.text?_eq_some.mp spelled, rfl⟩
    · cases written
  · rintro ⟨s, rfl, rfl⟩
    rw [pathJson, Path.text?_eq_some.mpr rfl]

end Mount.Label

end MountProbe
