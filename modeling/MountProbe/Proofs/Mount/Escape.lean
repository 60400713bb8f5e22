import MountProbe.Proofs.Mount.Octal
import MountProbe.Proofs.Text.Reading
import MountProbe.Proofs.Text.Utf8

namespace MountProbe.Mount.Table

open Text (utf8 IsText isBlank words)

def isEscaped (b : UInt8) : Bool :=
  b == 0x20 || b == 0x09 || b == 0x0A || b == 0x5C

def escapeByte (b : UInt8) : Bytes :=
  if isEscaped b then [0x5C, 0x30 + b / 64, 0x30 + b / 8 % 8, 0x30 + b % 8] else [b]

def escape (bs : Bytes) : Bytes :=
  bs.flatMap escapeByte

theorem escape_cons (b : UInt8) (bs : Bytes) : escape (b :: bs) = escapeByte b ++ escape bs := rfl

theorem escape_of_kept {bs : Bytes} (kept : ∀ b ∈ bs, isEscaped b = false) : escape bs = bs := by
  induction bs with
  | nil => rfl
  | cons b bs ih =>
    rw [escape_cons, escapeByte, if_neg (by simp [kept b List.mem_cons_self]),
      ih fun x member => kept x (List.mem_cons_of_mem _ member), List.singleton_append]

theorem isEscaped_cases {b : UInt8} (escaped : isEscaped b = true) :
    b = 0x20 ∨ b = 0x09 ∨ b = 0x0A ∨ b = 0x5C := by
  simpa [isEscaped, or_assoc] using escaped

theorem written_escape (bs : Bytes) : Written bs (escape bs) := by
  induction bs with
  | nil => exact .nil
  | cons b bs ih =>
    rw [escape_cons, escapeByte]
    split
    · rename_i escaped
      rcases isEscaped_cases escaped with rfl | rfl | rfl | rfl
      · exact .escape 0x20 ih
      · exact .escape 0x09 ih
      · exact .escape 0x0A ih
      · exact .escape 0x5C ih
    · rename_i plain
      refine .kept ?_ ih
      rintro rfl
      exact plain rfl

theorem unescape_escape (bs : Bytes) : unescape (escape bs) = bs :=
  unescape_of_written (written_escape bs)

theorem isText_escape {bs : Bytes} : IsText (escape bs) ↔ IsText bs := by
  -- An escape can be cut off as ASCII; a byte that is kept belongs to what stands before it.
  have within : ∀ before, IsText (before ++ escape bs) ↔ IsText (before ++ bs) := by
    induction bs with
    | nil => exact fun before => Iff.rfl
    | cons b bs ih =>
      intro before
      rw [escape_cons, escapeByte]
      split
      · rename_i escaped
        rcases isEscaped_cases escaped with rfl | rfl | rfl | rfl <;>
        · rw [List.cons_append, Text.isText_append_cons (by decide),
            Text.isText_append_cons (by decide), List.cons_append, List.cons_append,
            List.singleton_append, Text.isText_cons (by decide), Text.isText_cons (by decide),
            Text.isText_cons (by decide)]
          exact and_congr_right fun _ => ih []
      · rw [List.append_cons before b bs, ← List.append_assoc, ih]
  exact within []

/-- What the kernel writes for a character of a path. -/
def escapeChar : Char → List Char
  | ' ' => ['\\', '0', '4', '0']
  | '\t' => ['\\', '0', '1', '1']
  | '\n' => ['\\', '0', '1', '2']
  | '\\' => ['\\', '1', '3', '4']
  | c => [c]

def escapeText (cs : List Char) : List Char :=
  cs.flatMap escapeChar

/-- The blanks that the kernel does not escape. -/
def isBareBlank (c : Char) : Bool :=
  isBlank c && c != ' ' && c != '\t' && c != '\n'

theorem escape_encoded (c : Char) : escape (String.utf8EncodeChar c) = utf8 (escapeChar c) := by
  unfold escapeChar
  split
  · decide
  · decide
  · decide
  · decide
  · rename_i no_space no_tab no_feed no_backslash
    have kept : ∀ b ∈ String.utf8EncodeChar c, isEscaped b = false := by
      intro b member
      by_contra escaped
      rcases isEscaped_cases (Bool.not_eq_false _ ▸ escaped) with rfl | rfl | rfl | rfl
      · exact no_space (Text.eq_of_ascii member (by decide))
      · exact no_tab (Text.eq_of_ascii member (by decide))
      · exact no_feed (Text.eq_of_ascii member (by decide))
      · exact no_backslash (Text.eq_of_ascii member (by decide))
    rw [escape_of_kept kept, Text.utf8_cons, Text.utf8_nil, List.append_nil]

theorem escape_utf8 (cs : List Char) : escape (utf8 cs) = utf8 (escapeText cs) := by
  induction cs with
  | nil => rfl
  | cons c cs ih =>
    rw [Text.utf8_cons, escape, List.flatMap_append, escapeText, List.flatMap_cons,
      Text.utf8_append]
    exact congrArg₂ (· ++ ·) (escape_encoded c) ih

theorem fieldBytes_escapeText (cs : List Char) : fieldBytes (escapeText cs) = utf8 cs := by
  rw [fieldBytes, ← escape_utf8, unescape_escape]

theorem escapeChar_of_bare {c : Char} (bare : isBareBlank c = true) : escapeChar c = [c] := by
  unfold escapeChar
  split
  · exact absurd bare (by decide)
  · exact absurd bare (by decide)
  · exact absurd bare (by decide)
  · exact absurd bare (by decide)
  · rfl

theorem blank_of_bare {c : Char} (bare : isBareBlank c = true) : isBlank c = true := by
  simp only [isBareBlank, Bool.and_eq_true] at bare
  exact bare.1.1.1

theorem escapeChar_solid {c : Char} (kept : isBareBlank c = false) :
    ∀ d ∈ escapeChar c, isBlank d = false := by
  unfold escapeChar
  split
  · simp [isBlank]
  · simp [isBlank]
  · simp [isBlank]
  · simp [isBlank]
  · simp_all [isBareBlank]

theorem escapeChar_ne_nil (c : Char) : escapeChar c ≠ [] := by
  unfold escapeChar
  split <;> simp

theorem escapeText_cons (c : Char) (cs : List Char) :
    escapeText (c :: cs) = escapeChar c ++ escapeText cs := rfl

theorem takeWhile_escapeText (cs : List Char) :
    (escapeText cs).takeWhile (fun d => !isBlank d) =
      escapeText (cs.takeWhile fun c => !isBareBlank c) := by
  induction cs with
  | nil => rfl
  | cons c cs ih =>
    rw [escapeText_cons]
    cases bare : isBareBlank c with
    | true => simp [escapeChar_of_bare bare, blank_of_bare bare, bare, escapeText]
    | false =>
      rw [List.takeWhile_append_of_pos fun d member => by simp [escapeChar_solid bare d member],
        ih, List.takeWhile_cons_of_pos (by simp [bare]), escapeText_cons]

theorem words_escapeText (cs : List Char) :
    (∀ c ∈ cs, isBareBlank c = true) ∧ words (escapeText cs) = [] ∨
      ∃ stretch more, words (escapeText cs) = escapeText stretch :: more ∧
        ∀ c ∈ stretch, isBareBlank c = false := by
  induction cs with
  | nil => exact .inl ⟨by simp, by simp [escapeText, words]⟩
  | cons c cs ih =>
    cases bare : isBareBlank c with
    | true =>
      rw [escapeText_cons, escapeChar_of_bare bare, List.singleton_append,
        Text.words_cons_of_blank (blank_of_bare bare)]
      rcases ih with ⟨all, no_word⟩ | found
      · exact .inl ⟨by simpa [bare] using all, no_word⟩
      · exact .inr found
    | false =>
      refine .inr ⟨(c :: cs).takeWhile fun x => !isBareBlank x, ?_⟩
      obtain ⟨d, ds, first⟩ := List.exists_cons_of_ne_nil (escapeChar_ne_nil c)
      have solid : isBlank d = false := escapeChar_solid bare d (by simp [first])
      have cut := takeWhile_escapeText (c :: cs)
      rw [escapeText_cons, first, List.cons_append] at cut ⊢
      rw [Text.words_cons_of_solid solid]
      rw [List.takeWhile_cons_of_pos (by simp [solid])] at cut
      refine ⟨_, congrArg (· :: _) cut, fun x member => ?_⟩
      simpa using List.mem_takeWhile_imp member

theorem words_of_no_bare {cs : List Char} (some : cs ≠ [])
    (solid : ∀ c ∈ cs, isBareBlank c = false) : words (escapeText cs) = [escapeText cs] := by
  refine Text.words_of_solid ?_ ?_
  · obtain ⟨c, rest, rfl⟩ := List.exists_cons_of_ne_nil some
    simp [escapeText_cons, escapeChar_ne_nil]
  · intro d member
    obtain ⟨c, there, written⟩ := List.mem_flatMap.mp member
    exact escapeChar_solid (solid c there) d written

theorem escapeText_apart (cs : List Char) : ' ' ∉ escapeText cs ∧ '\n' ∉ escapeText cs := by
  have kept : ∀ d ∈ escapeText cs, isBareBlank d = true ∨ isBlank d = false := by
    intro d member
    obtain ⟨c, -, written⟩ := List.mem_flatMap.mp member
    cases bare : isBareBlank c with
    | true =>
      rw [escapeChar_of_bare bare, List.mem_singleton] at written
      rw [written]
      exact .inl bare
    | false => exact .inr (escapeChar_solid bare d written)
  constructor
  · exact fun member => absurd (kept ' ' member) (by decide)
  · exact fun member => absurd (kept '\n' member) (by decide)

theorem escapeText_ne_dash (rest : List Char) : escapeText ('/' :: rest) ≠ ['-'] := by
  rw [escapeText_cons]
  simp [escapeChar]

theorem words_of_slash (rest : List Char) : ∃ stretch more,
    words (escapeText ('/' :: rest)) = escapeText stretch :: more ∧
      ∀ c ∈ stretch, isBareBlank c = false := by
  rcases words_escapeText ('/' :: rest) with ⟨all, -⟩ | found
  · exact absurd (all '/' List.mem_cons_self) (by decide)
  · exact found

end MountProbe.Mount.Table
