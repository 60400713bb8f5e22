import MountProbe.Mount.Table
import MountProbe.Proofs.Text.Cutting
import MountProbe.Proofs.Text.Slice

/-! How a line of a table is cut at its separator. The separator is looked for in the bytes, where
it stands between characters only, so that the line is cut into the texts before and behind the
first separator among its characters. -/
namespace MountProbe.Mount.Table

open Text (utf8 firstPlace isBoundary slice? splitFirst FirstCut)

section

variable {line head tail : List Char} {before after : Bytes}

theorem separator_of_bytes (cut : utf8 line = before ++ utf8 separator ++ after) :
    ∃ head tail, line = head ++ separator ++ tail ∧ before = utf8 head ∧ after = utf8 tail := by
  have mark : utf8 separator = [0x20, 0x2D, 0x20] := by decide
  have whole : Text.IsText (before ++ 0x20 :: 0x2D :: 0x20 :: after) := by
    refine ⟨line, ?_⟩
    rw [cut, mark]
    simp
  obtain ⟨first, rest⟩ := (Text.isText_append_cons (by decide)).mp whole
  obtain ⟨head, rfl⟩ := first
  obtain ⟨tail, rfl⟩ := (Text.isText_cons (by decide)).mp ((Text.isText_cons (by decide)).mp rest)
  refine ⟨head, tail, Text.utf8_injective ?_, rfl, rfl⟩
  rw [cut, Text.utf8_append, Text.utf8_append]

theorem firstPlace_of_cut (cut : FirstCut separator line head tail) :
    firstPlace (utf8 separator) (utf8 line) = some (utf8 head).length := by
  have bytes : utf8 line = utf8 head ++ utf8 separator ++ utf8 tail := by
    rw [cut.whole, Text.utf8_append, Text.utf8_append]
  rw [bytes]
  apply Text.firstPlace_of_first
  intro b a other
  -- Another place is that of a separator, which is not before the first one.
  obtain ⟨other_head, other_tail, whole, rfl, -⟩ := separator_of_bytes (bytes.trans other)
  have shorter := cut.first other_head other_tail whole
  have same := cut.whole.symm.trans whole
  rw [List.append_assoc, List.append_assoc] at same
  obtain ⟨between, rfl⟩ := List.prefix_of_prefix_length_le ⟨_, same⟩ ⟨_, rfl⟩ shorter
  simp

theorem firstPlace_of_absent (absent : ¬ separator <:+: line) :
    firstPlace (utf8 separator) (utf8 line) = none := by
  rw [Text.firstPlace_eq_none]
  rintro ⟨before, after, cut⟩
  obtain ⟨head, tail, whole, -⟩ := separator_of_bytes cut.symm
  exact absent ⟨head, tail, whole.symm⟩

theorem slices_of_cut (cut : line = head ++ separator ++ tail) :
    slice? (utf8 line) 0 (utf8 head).length = some head ∧
      slice? (utf8 line) ((utf8 head).length + (utf8 separator).length) (utf8 line).length =
        some tail := by
  have first := Text.slice?_utf8 [] head (separator ++ tail)
  have last := Text.slice?_utf8 (head ++ separator) tail []
  rw [cut]
  constructor
  · simpa using first
  · simpa using last

theorem sides_eq_splitFirst (line : List Char) : sides line = splitFirst separator line := by
  cases found : splitFirst separator line with
  | none => rw [sides, firstPlace_of_absent (Text.splitFirst_eq_none.mp found)]; rfl
  | some both =>
    obtain ⟨head, tail⟩ := both
    have cut := Text.firstCut_of_splitFirst found
    obtain ⟨first, last⟩ := slices_of_cut cut.whole
    simp [sides, firstPlace_of_cut cut, first, last]

end

theorem absent_before {line head tail : List Char} (cut : FirstCut separator line head tail) :
    ¬ separator <:+: head := by
  rintro ⟨before, after, within⟩
  have earlier := cut.first before (after ++ separator ++ tail)
    (by rw [cut.whole, ← within]; simp)
  have longer := congrArg List.length within
  simp only [separator, List.length_append, List.length_cons, List.length_nil] at longer
  omega

/-- The separator is found between characters of the line, if it is found, and both cuts give a
text. The texts with the separator between them are the line, and the first one has no separator. -/
theorem lines_cut_between_characters (line : List Char) :
    (firstPlace (utf8 separator) (utf8 line) = none ∧ ¬ separator <:+: line ∧ sides line = none) ∨
    ∃ place head tail, firstPlace (utf8 separator) (utf8 line) = some place ∧
      isBoundary (utf8 line) place = true ∧ isBoundary (utf8 line) (place + 3) = true ∧
      slice? (utf8 line) 0 place = some head ∧
      slice? (utf8 line) (place + 3) (utf8 line).length = some tail ∧
      sides line = some (head, tail) ∧
      head ++ separator ++ tail = line ∧ ¬ separator <:+: head := by
  cases found : splitFirst separator line with
  | none =>
    have absent := Text.splitFirst_eq_none.mp found
    exact .inl ⟨firstPlace_of_absent absent, absent, (sides_eq_splitFirst line).trans found⟩
  | some both =>
    obtain ⟨head, tail⟩ := both
    have cut := Text.firstCut_of_splitFirst found
    obtain ⟨first, last⟩ := slices_of_cut cut.whole
    have start := Text.isBoundary_utf8 head (separator ++ tail)
    have stop := Text.isBoundary_utf8 (head ++ separator) tail
    rw [← List.append_assoc, ← cut.whole] at start
    rw [← cut.whole, Text.utf8_append, List.length_append] at stop
    exact .inr ⟨_, head, tail, firstPlace_of_cut cut, start, stop, first, last,
      (sides_eq_splitFirst line).trans found, cut.whole.symm, absent_before cut⟩

end MountProbe.Mount.Table
