import Mathlib.Data.List.TakeWhile
import MountProbe.Proofs.Text.Utf8
import MountProbe.Text.Blank
import MountProbe.Text.Numeral

namespace MountProbe.Text

theorem attach_false (c : Char) (ws : List (List Char)) : attach c false ws = [c] :: ws := by
  cases ws <;> simp [attach]

theorem words_cons_of_solid {c : Char} (solid : isBlank c = false) (rest : List Char) :
    words (c :: rest) =
      (c :: rest.takeWhile fun d => !isBlank d) :: words (rest.dropWhile fun d => !isBlank d) := by
  induction rest generalizing c with
  | nil => simp [words, attach, solid]
  | cons d rest ih =>
    rw [words, if_neg (by simp [solid]), List.head?_cons, Option.any_some]
    cases blank : isBlank d with
    | true => simp [attach_false, blank]
    | false => simp [ih blank, attach, blank]

theorem words_cons_of_blank {c : Char} (blank : isBlank c = true) (rest : List Char) :
    words (c :: rest) = words rest := by
  rw [words, if_pos blank]

theorem words_of_solid {w : List Char} (some : w ≠ []) (solid : ∀ c ∈ w, isBlank c = false) :
    words w = [w] := by
  obtain ⟨c, rest, rfl⟩ := List.exists_cons_of_ne_nil some
  have later : ∀ d ∈ rest, (!isBlank d) = true := fun d member => by
    simp [solid d (List.mem_cons_of_mem _ member)]
  rw [words_cons_of_solid (solid c List.mem_cons_self), List.takeWhile_eq_self_iff.mpr later,
    List.dropWhile_eq_nil_iff.mpr later, words]

theorem words_append_blank {b : Char} (blank : isBlank b = true) (xs ys : List Char) :
    words (xs ++ b :: ys) = words xs ++ words ys := by
  induction xs with
  | nil => rw [List.nil_append, words_cons_of_blank blank, words, List.nil_append]
  | cons c xs ih =>
    rw [List.cons_append, words, words, ih]
    split
    · rfl
    · cases xs with
      | nil => simp [blank, attach_false, words]
      | cons d xs =>
        simp only [List.cons_append, List.head?_cons, Option.any_some]
        cases solid : isBlank d with
        | true => simp [attach_false]
        | false => simp [words_cons_of_solid solid, attach]

theorem intercalate_cons {α : Type} (s : α) (x : List α) (xs : List (List α)) :
    [s].intercalate (x :: xs) = x ++ xs.flatMap (s :: ·) := by
  induction xs generalizing x with
  | nil => simp
  | cons y ys ih => simp [ih]

theorem mem_intercalate {α : Type} {s c : α} {fields : List (List α)}
    (member : c ∈ [s].intercalate fields) : c = s ∨ ∃ f ∈ fields, c ∈ f := by
  cases fields with
  | nil => cases member
  | cons field fields =>
    simp only [intercalate_cons, List.mem_append, List.mem_flatMap, List.mem_cons] at member
    rcases member with first | ⟨f, there, rfl | inside⟩
    · exact .inr ⟨field, List.mem_cons_self, first⟩
    · exact .inl rfl
    · exact .inr ⟨f, List.mem_cons_of_mem _ there, inside⟩

theorem getLast?_intercalate {α : Type} {s : α} {fields : List (List α)} {last : List α}
    (some : last ≠ []) : ([s].intercalate (fields ++ [last])).getLast? = last.getLast? := by
  obtain ⟨c, rest, rfl⟩ := List.exists_cons_of_ne_nil some
  cases fields with
  | nil => simp
  | cons field fields =>
    rw [List.cons_append, intercalate_cons]
    simp [List.getLast?_append, List.getLast?_cons]

theorem utf8_intercalate (fields : List (List Char)) :
    utf8 ([' '].intercalate fields) = [0x20].intercalate (fields.map utf8) := by
  cases fields with
  | nil => rfl
  | cons field fields =>
    rw [intercalate_cons, List.map_cons, intercalate_cons, utf8_append, List.flatMap_map]
    exact congrArg (utf8 field ++ ·) List.flatMap_assoc

theorem isText_intercalate (fields : List Bytes) :
    IsText ([0x20].intercalate fields) ↔ ∀ f ∈ fields, IsText f := by
  cases fields with
  | nil => simpa using isText_nil
  | cons field fields =>
    rw [intercalate_cons]
    induction fields generalizing field with
    | nil => simp
    | cons next fields ih =>
      rw [List.flatMap_cons, List.cons_append, isText_append_cons (by decide), ih]
      simp

theorem words_spaced (field : List Char) (fields : List (List Char)) :
    words (field ++ fields.flatMap (' ' :: ·)) = words field ++ fields.flatMap words := by
  induction fields generalizing field with
  | nil => simp
  | cons next fields ih =>
    rw [List.flatMap_cons, List.cons_append, words_append_blank rfl, ih, List.flatMap_cons]

theorem lines_append_newline {line : List Char} (one : '\n' ∉ line)
    (ending : line.getLast? ≠ some '\r') (rest : List Char) :
    lines (line ++ '\n' :: rest) = line :: lines rest := by
  induction line with
  | nil => rw [List.nil_append, lines]
  | cons c line ih =>
    have later := ih (fun member => one (List.mem_cons_of_mem _ member))
    have first : c ≠ '\n' := fun same => one (same ▸ List.mem_cons_self)
    cases line with
    | nil =>
      have plain : c ≠ '\r' := fun same => ending (by rw [same]; rfl)
      rw [List.nil_append] at later
      rw [List.singleton_append, lines, later (by simp)]
      · simp [attach]
      all_goals simp_all
    | cons d line =>
      have second : d ≠ '\n' := fun same => one (by simp [same])
      rw [List.cons_append, lines, later (by rwa [List.getLast?_cons_cons] at ending)]
      · simp [attach]
      all_goals simp_all

theorem lines_flatMap {ls : List (List Char)}
    (whole : ∀ line ∈ ls, '\n' ∉ line ∧ line.getLast? ≠ some '\r') :
    lines (ls.flatMap (· ++ ['\n'])) = ls := by
  induction ls with
  | nil => rfl
  | cons line ls ih =>
    obtain ⟨one, ending⟩ := whole line List.mem_cons_self
    rw [List.flatMap_cons, List.append_assoc, List.singleton_append,
      lines_append_newline one ending, ih fun l member => whole l (List.mem_cons_of_mem _ member)]

theorem splitFirst_append {s : Char} {separator piece : List Char} (apart : s ∉ piece)
    (rest : List Char) : splitFirst (s :: separator) (piece ++ rest) =
      (splitFirst (s :: separator) rest).map fun (before, after) => (piece ++ before, after) := by
  induction piece with
  | nil => simp
  | cons c piece ih =>
    have first : (s == c) = false := by simpa using fun same => apart (by simp [same])
    rw [List.cons_append, splitFirst, if_neg (by simp [List.isPrefixOf, first]),
      ih fun member => apart (List.mem_cons_of_mem _ member), Option.map_map]
    rfl

theorem splitFirst_at {s : Char} {before : List Char} (apart : s ∉ before) (after : List Char) :
    splitFirst [s] (before ++ s :: after) = some (before, after) := by
  rw [splitFirst_append apart, splitFirst, if_pos (by simp [List.isPrefixOf])]
  simp

/-- Fields with a space between any two are cut at the first one that is a lone dash. -/
theorem splitFirst_dash {field : List Char} {fields : List (List Char)}
    (first : ' ' ∉ field) (apart : ∀ f ∈ fields, ' ' ∉ f ∧ f ≠ ['-']) (after : List Char) :
    splitFirst [' ', '-', ' '] (field ++ fields.flatMap (' ' :: ·) ++ [' ', '-', ' '] ++ after) =
      some (field ++ fields.flatMap (' ' :: ·), after) := by
  induction fields generalizing field with
  | nil =>
    rw [List.flatMap_nil, List.append_nil, List.append_assoc, splitFirst_append first,
      List.cons_append, splitFirst, if_pos (by simp [List.isPrefixOf])]
    simp
  | cons next fields ih =>
    obtain ⟨no_space, no_dash⟩ := apart next List.mem_cons_self
    have later := ih no_space fun f member => apart f (List.mem_cons_of_mem _ member)
    have no_cut : ¬ [' ', '-', ' '].isPrefixOf (' ' :: (next ++ fields.flatMap (' ' :: ·) ++
        [' ', '-', ' '] ++ after)) = true := by
      rw [List.isPrefixOf_iff_prefix, List.cons_prefix_cons]
      rintro ⟨-, cut⟩
      rcases next with _ | ⟨c, _ | ⟨d, next⟩⟩
      · cases fields <;> simp at cut
      · have dash := (List.cons_prefix_cons.mp cut).1
        exact no_dash (by rw [← dash])
      · have space := (List.cons_prefix_cons.mp (List.cons_prefix_cons.mp cut).2).1
        exact no_space (by simp [← space])
    have joined : field ++ (next :: fields).flatMap (' ' :: ·) ++ [' ', '-', ' '] ++ after =
        field ++ ' ' :: (next ++ fields.flatMap (' ' :: ·) ++ [' ', '-', ' '] ++ after) := by
      simp
    rw [joined, splitFirst_append first, splitFirst, if_neg no_cut, later]
    simp

theorem words_intercalate (fields : List (List Char)) :
    words ([' '].intercalate fields) = fields.flatMap words := by
  cases fields with
  | nil => rfl
  | cons field fields => rw [intercalate_cons, words_spaced, List.flatMap_cons]

theorem readDigits_append {limit acc n d : Nat} {cs : List Char} {c : Char}
    (read : readDigits limit acc cs = .ok n) (digit : digitValue c = some d)
    (within : n * 10 + d ≤ limit) : readDigits limit acc (cs ++ [c]) = .ok (n * 10 + d) := by
  induction cs generalizing acc with
  | nil =>
    cases read
    simp [readDigits, digit, Nat.not_lt.mpr within]
  | cons x cs ih =>
    rw [readDigits] at read
    split at read
    · cases read
    · rename_i v value
      split at read
      · cases read
      · rename_i small
        rw [List.cons_append, readDigits, value]
        dsimp only
        rw [if_neg small, ih read]

theorem digitValue_digitChar {d : Nat} (digit : d < 10) :
    digitValue (Nat.digitChar d) = some d := by
  revert d
  decide

theorem readDigits_toDigits {limit n : Nat} (within : n ≤ limit) :
    readDigits limit 0 (Nat.toDigits 10 n) = .ok n := by
  induction n using Nat.strongRecOn with
  | ind n ih =>
    rw [Nat.toDigits_eq_if (by omega)]
    split
    · rename_i small
      simp [readDigits, digitValue_digitChar small, Nat.not_lt.mpr within]
    · have whole : n / 10 * 10 + n % 10 = n := by omega
      have read := readDigits_append (ih (n / 10) (by omega) (by omega))
        (digitValue_digitChar (Nat.mod_lt n (by omega))) (by omega)
      rwa [whole] at read

theorem digitChar_range {d : Nat} (digit : d < 10) :
    '0' ≤ Nat.digitChar d ∧ Nat.digitChar d ≤ '9' := by
  revert d
  decide

theorem toDigits_range (n : Nat) : ∀ c ∈ Nat.toDigits 10 n, '0' ≤ c ∧ c ≤ '9' := by
  induction n using Nat.strongRecOn with
  | ind n ih =>
    rw [Nat.toDigits_eq_if (by omega)]
    intro c member
    split at member
    · rename_i small
      rw [List.mem_singleton.mp member]
      exact digitChar_range small
    · rcases List.mem_append.mp member with before | last
      · exact ih (n / 10) (by omega) c before
      · rw [List.mem_singleton.mp last]
        exact digitChar_range (Nat.mod_lt n (by omega))

theorem toDigits_ne_nil (n : Nat) : Nat.toDigits 10 n ≠ [] := by
  rw [Nat.toDigits_eq_if (by omega)]
  split <;> simp

theorem readNumeral_toDigits {limit n : Nat} (within : n ≤ limit) :
    readNumeral limit (String.ofList (Nat.toDigits 10 n)) = .ok n := by
  have digits := toDigits_range n
  have read := readDigits_toDigits within
  rw [readNumeral, String.toList_ofList]
  split
  · rename_i none
    exact absurd none (toDigits_ne_nil n)
  · rename_i sign
    rw [sign] at digits
    exact absurd (digits '+' List.mem_cons_self) (by decide)
  · rename_i sign
    rw [sign] at digits
    exact absurd (digits '+' List.mem_cons_self) (by decide)
  · exact read

end MountProbe.Text
