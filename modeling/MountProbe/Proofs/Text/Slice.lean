import MountProbe.Proofs.Text.Utf8
import MountProbe.Text.Slice

namespace MountProbe.Text

theorem firstPlace_of_here {stretch text : Bytes} (here : stretch <+: text) :
    firstPlace stretch text = some 0 := by
  cases text with
  | nil => simp [firstPlace, List.prefix_nil.mp here]
  | cons b rest => rw [firstPlace, if_pos (List.isPrefixOf_iff_prefix.mpr here)]

theorem firstPlace_of_first {stretch before after : Bytes}
    (first : ∀ b a, before ++ stretch ++ after = b ++ stretch ++ a → before.length ≤ b.length) :
    firstPlace stretch (before ++ stretch ++ after) = some before.length := by
  induction before with
  | nil => exact firstPlace_of_here (List.prefix_append _ _)
  | cons x before ih =>
    have absent : ¬ stretch.isPrefixOf (x :: (before ++ stretch ++ after)) = true := by
      rw [List.isPrefixOf_iff_prefix]
      rintro ⟨rest, here⟩
      exact absurd (first [] rest here.symm) (by simp)
    have later : firstPlace stretch (before ++ stretch ++ after) = some before.length := by
      apply ih
      intro b a cut
      exact Nat.le_of_succ_le_succ (first (x :: b) a (congrArg (x :: ·) cut))
    rw [List.cons_append, List.cons_append, firstPlace, if_neg absent, later]
    rfl

theorem firstPlace_eq_none {stretch text : Bytes} :
    firstPlace stretch text = none ↔ ¬ stretch <:+: text := by
  induction text with
  | nil => simp [firstPlace]
  | cons b rest ih =>
    rw [firstPlace, List.infix_cons_iff, ← List.isPrefixOf_iff_prefix]
    split
    · rename_i here
      simp [here]
    · rename_i absent
      rw [Option.map_eq_none_iff, ih]
      simp [absent]

section

variable {a b c : List Char}

theorem isBoundary_length (text : Bytes) : isBoundary text text.length = true := by
  simp [isBoundary]

theorem isBoundary_utf8 (a b : List Char) : isBoundary (utf8 (a ++ b)) (utf8 a).length = true := by
  cases b with
  | nil =>
    rw [List.append_nil]
    exact isBoundary_length _
  | cons c b =>
    obtain ⟨first, tail, encoded, -⟩ := readChar_encoded c
    have spells := spells_encoded c
    rw [encoded] at spells
    have begins : isTail first = false := by
      rw [Bool.eq_false_iff, Ne, isTail_iff]
      generalize c.toNat = n at spells
      cases spells <;> omega
    rw [utf8_append, utf8_cons, encoded, isBoundary, List.cons_append,
      List.getElem?_append_right (Nat.le_refl _), Nat.sub_self]
    simp [begins]

theorem slice?_utf8 (a b c : List Char) :
    slice? (utf8 (a ++ b ++ c)) (utf8 a).length (utf8 (a ++ b)).length = some b := by
  have start := isBoundary_utf8 a (b ++ c)
  rw [← List.append_assoc] at start
  have stop := isBoundary_utf8 (a ++ b) c
  have order : (utf8 a).length ≤ (utf8 (a ++ b)).length := by simp
  rw [slice?, start, stop, decide_eq_true order, Bool.and_self, Bool.and_self, if_pos rfl]
  rw [decode?_eq_some, utf8_append (a ++ b) c, List.take_left, utf8_append, List.drop_left]

end

end MountProbe.Text
