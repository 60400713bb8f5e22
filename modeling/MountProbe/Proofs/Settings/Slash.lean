import MountProbe.Proofs.Path.Text
import MountProbe.Settings.Load

namespace MountProbe

namespace Path

variable {p : Path} {front : Bytes}

/-- The path is this and a slash after it. The root has nothing before its slash. -/
def EndsAfter (p : Path) (front : Bytes) : Prop :=
  front ≠ [] ∧ p.raw = front ++ [slash]

def EndsInSlash (p : Path) : Prop :=
  ∃ front, p.EndsAfter front

/-- The path ends in two slashes, and something is before them. -/
def EndsInTwo (p : Path) : Prop :=
  ∃ front, front ≠ [] ∧ p.raw = front ++ [slash, slash]

theorem endsInTwo_iff : p.EndsInTwo ↔ ∃ front, p.EndsAfter front ∧ EndsInSlash ⟨front⟩ := by
  constructor
  · intro ends
    obtain ⟨front, filled, spelled⟩ := ends
    refine ⟨front ++ [slash], ⟨by simp, ?_⟩, front, filled, rfl⟩
    simp only [spelled, List.append_assoc, List.singleton_append]
  · intro ends
    obtain ⟨_, ⟨-, spelled⟩, front, filled, rfl⟩ := ends
    refine ⟨front, filled, ?_⟩
    simp only [spelled, List.append_assoc, List.singleton_append]

theorem endsInSlash_iff : p.EndsInSlash ↔ p.raw.getLast? = some slash ∧ p.raw ≠ [slash] := by
  constructor
  · intro ends
    obtain ⟨front, filled, spelled⟩ := ends
    constructor
    · simp only [spelled, List.getLast?_append, List.getLast?_singleton, Option.some_or]
    · intro root
      apply filled
      exact List.append_cancel_right (spelled.symm.trans root)
  · intro ends
    obtain ⟨last, no_root⟩ := ends
    obtain ⟨front, spelled⟩ := List.getLast?_eq_some_iff.mp last
    refine ⟨front, ?_, spelled⟩
    rintro rfl
    exact no_root spelled

instance : Decidable p.EndsInSlash :=
  decidable_of_iff' _ endsInSlash_iff

theorem utf8_slash : Text.utf8 ['/'] = [slash] := by decide

theorem raw_of_isText (text : p.isText = true) : p.raw = Text.utf8 p.display.toList := by
  obtain ⟨s, spelled⟩ := Option.isSome_iff_exists.mp text
  cases text?_eq_some.mp spelled
  simp only [display, ofString, Text.lossy_utf8, String.toList_ofList]

theorem endsAfter_iff (text : p.isText = true) :
    p.EndsAfter front ↔
      ∃ cs, cs ≠ [] ∧ p.display.toList = cs ++ ['/'] ∧ front = Text.utf8 cs := by
  have spelled := raw_of_isText text
  constructor
  · intro ends
    obtain ⟨filled, ending⟩ := ends
    have whole : Text.IsText (front ++ slash :: []) := ⟨_, ending.symm.trans spelled⟩
    obtain ⟨⟨cs, rfl⟩, -⟩ := (Text.isText_append_cons (by decide)).mp whole
    refine ⟨cs, ?_, ?_, rfl⟩
    · intro none
      apply filled
      simp only [none, Text.utf8_nil]
    · apply Text.utf8_injective
      simp only [Text.utf8_append, utf8_slash, ← spelled, ending]
  · intro ends
    obtain ⟨cs, filled, ending, rfl⟩ := ends
    constructor
    · intro none
      apply filled
      exact Text.utf8_injective none
    · simp only [spelled, ending, Text.utf8_append, utf8_slash]

end Path

namespace Settings

variable {p : Path} {front : Bytes}

theorem withoutSlash_of_endsAfter (text : p.isText = true) (ends : p.EndsAfter front) :
    withoutSlash p = ⟨front⟩ := by
  obtain ⟨cs, filled, ending, rfl⟩ := (Path.endsAfter_iff text).mp ends
  have some_byte : 0 < (Text.utf8 cs).length := List.length_pos_iff.mpr ends.1
  have long : 1 < (Text.utf8 (cs ++ ['/'])).length := by
    simp only [Text.utf8_append, Path.utf8_slash, List.length_append, List.length_singleton]
    omega
  unfold withoutSlash
  simp only [ending, List.getLast?_append, List.getLast?_singleton, Option.some_or,
    List.dropLast_concat, and_true, long, if_true]

theorem withoutSlash_of_other (text : p.isText = true) (other : ¬ p.EndsInSlash) :
    withoutSlash p = p := by
  unfold withoutSlash
  apply if_neg
  intro ending
  obtain ⟨long, last⟩ := ending
  obtain ⟨cs, spelled⟩ := List.getLast?_eq_some_iff.mp last
  apply other
  refine ⟨Text.utf8 cs, (Path.endsAfter_iff text).mpr ⟨cs, ?_, spelled, rfl⟩⟩
  rintro rfl
  simp only [spelled, List.nil_append, Path.utf8_slash, List.length_singleton] at long
  omega

theorem withoutSlash_eq_self (text : p.isText = true) :
    withoutSlash p = p ↔ ¬ p.EndsInSlash := by
  constructor
  · intro same ends
    obtain ⟨front, ends⟩ := ends
    have shorter := withoutSlash_of_endsAfter text ends
    have spelled := congrArg Path.raw (same.symm.trans shorter)
    have lengths := congrArg List.length (spelled.symm.trans ends.2)
    simp only [List.length_append, List.length_singleton] at lengths
    omega
  · exact withoutSlash_of_other text

theorem endsInSlash_withoutSlash (text : p.isText = true) :
    (withoutSlash p).EndsInSlash ↔ p.EndsInTwo := by
  by_cases ends : p.EndsInSlash
  · obtain ⟨front, ends⟩ := ends
    simp only [withoutSlash_of_endsAfter text ends, Path.endsInTwo_iff]
    constructor
    · intro again
      exact ⟨front, ends, again⟩
    · intro two
      obtain ⟨other, ends', again⟩ := two
      cases List.append_cancel_right (ends.2.symm.trans ends'.2)
      exact again
  · simp only [withoutSlash_of_other text ends, ends, false_iff, Path.endsInTwo_iff]
    intro two
    obtain ⟨front, ends', -⟩ := two
    exact ends ⟨front, ends'⟩

end Settings

end MountProbe
