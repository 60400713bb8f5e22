import Mathlib.Data.List.Infix
import Mathlib.Data.Nat.Digits.Defs
import MountProbe.Proofs.Text.Reading

namespace MountProbe.Text

/-- The two sides of a text around the first place where a separator stands in it. -/
structure FirstCut (separator cs before after : List Char) : Prop where
  whole : cs = before ++ separator ++ after
  first : ∀ b a, cs = b ++ separator ++ a → before.length ≤ b.length

theorem FirstCut.unique {separator cs before after b a : List Char}
    (cut : FirstCut separator cs before after) (other : FirstCut separator cs b a) :
    before = b ∧ after = a := by
  have level : before.length = b.length :=
    Nat.le_antisymm (cut.first b a other.whole) (other.first before after cut.whole)
  have texts := cut.whole.symm.trans other.whole
  rw [List.append_assoc, List.append_assoc] at texts
  obtain ⟨same, rest⟩ := List.append_inj texts level
  exact ⟨same, List.append_cancel_left rest⟩

theorem firstCut_of_splitFirst {separator cs before after : List Char}
    (cut : splitFirst separator cs = some (before, after)) :
    FirstCut separator cs before after := by
  induction cs generalizing before after with
  | nil =>
    rw [splitFirst] at cut
    split at cut
    · rename_i empty
      cases cut
      exact ⟨by simpa using empty, fun _ _ _ => Nat.zero_le _⟩
    · cases cut
  | cons c rest ih =>
    rw [splitFirst] at cut
    split at cut
    · rename_i here
      cases cut
      refine ⟨?_, fun _ _ _ => Nat.zero_le _⟩
      exact (List.prefix_iff_eq_append.mp (List.isPrefixOf_iff_prefix.mp here)).symm
    · rename_i absent
      obtain ⟨⟨before', after'⟩, later, same⟩ := Option.map_eq_some_iff.mp cut
      cases same
      obtain ⟨whole, first⟩ := ih later
      refine ⟨by rw [whole]; simp, fun b a cut => ?_⟩
      cases b with
      | nil => exact absurd (List.isPrefixOf_iff_prefix.mpr ⟨a, cut.symm⟩) absent
      | cons d b =>
        rw [List.cons_append, List.cons_append, List.cons.injEq] at cut
        exact Nat.succ_le_succ (first b a cut.2)

theorem splitFirst_eq_none {separator cs : List Char} :
    splitFirst separator cs = none ↔ ¬ separator <:+: cs := by
  induction cs with
  | nil => simp [splitFirst]
  | cons c rest ih =>
    rw [splitFirst, List.infix_cons_iff, ← List.isPrefixOf_iff_prefix]
    split
    · rename_i here
      simp [here]
    · rename_i absent
      rw [Option.map_eq_none_iff, ih]
      simp [absent]

theorem splitFirst_eq_some {separator cs before after : List Char} :
    splitFirst separator cs = some (before, after) ↔ FirstCut separator cs before after := by
  refine ⟨firstCut_of_splitFirst, fun cut => ?_⟩
  cases found : splitFirst separator cs with
  | none => exact absurd ⟨before, after, cut.whole.symm⟩ (splitFirst_eq_none.mp found)
  | some halves =>
    obtain ⟨same, same'⟩ := (firstCut_of_splitFirst found).unique cut
    rw [← same, ← same']

/-- The words of a text: stretches without a blank that nothing but blanks and the ends of the text
surround. -/
inductive Worded : List Char → List (List Char) → Prop where
  | none {cs : List Char} : (∀ c ∈ cs, isBlank c = true) → Worded cs []
  | next {blanks word rest : List Char} {ws : List (List Char)} :
    (∀ c ∈ blanks, isBlank c = true) → word ≠ [] → (∀ c ∈ word, isBlank c = false) →
    (∀ c ∈ rest.head?, isBlank c = true) → Worded rest ws →
    Worded (blanks ++ word ++ rest) (word :: ws)

theorem words_append_of_blanks {blanks : List Char} (all : ∀ c ∈ blanks, isBlank c = true)
    (rest : List Char) : words (blanks ++ rest) = words rest := by
  induction blanks with
  | nil => rfl
  | cons c blanks ih =>
    rw [List.cons_append, words_cons_of_blank (all c List.mem_cons_self),
      ih fun d member => all d (List.mem_cons_of_mem _ member)]

theorem words_of_worded {cs : List Char} {ws : List (List Char)} (worded : Worded cs ws) :
    words cs = ws := by
  induction worded with
  | none all => simpa [words] using words_append_of_blanks all []
  | @next blanks word rest ws before some solid bound _ ih =>
    rw [List.append_assoc, words_append_of_blanks before]
    cases rest with
    | nil => rw [List.append_nil, words_of_solid some solid, ← ih, words]
    | cons c rest =>
      have blank := bound c rfl
      rw [words_append_blank blank, words_of_solid some solid, ← ih, words_cons_of_blank blank]
      rfl

theorem worded_words (cs : List Char) : Worded cs (words cs) := by
  generalize size : cs.length = n
  induction n using Nat.strongRecOn generalizing cs with
  | ind n ih =>
    -- A text is its blanks in front, then its first word, then a text that is shorter.
    have whole := (List.takeWhile_append_dropWhile (p := isBlank) (l := cs)).symm
    have blanks : ∀ c ∈ cs.takeWhile isBlank, isBlank c = true :=
      fun c member => List.mem_takeWhile_imp member
    cases found : cs.dropWhile isBlank with
    | nil =>
      rw [found, List.append_nil] at whole
      rw [← whole] at blanks
      rw [words_of_worded (.none blanks)]
      exact .none blanks
    | cons c rest =>
      have solid : isBlank c = false := by
        simpa [found] using List.head?_dropWhile_not isBlank cs
      rw [found] at whole
      have shorter : (rest.dropWhile fun d => !isBlank d).length < n := by
        have short := (List.dropWhile_sublist (l := rest) fun d => !isBlank d).length_le
        have long := congrArg List.length whole
        rw [List.length_append, List.length_cons] at long
        omega
      have later := ih _ shorter _ rfl
      have first : ∀ d ∈ c :: rest.takeWhile fun d => !isBlank d, isBlank d = false := by
        intro d member
        rcases List.mem_cons.mp member with rfl | member
        · exact solid
        · simpa using List.mem_takeWhile_imp member
      have bound : ∀ d ∈ (rest.dropWhile fun d => !isBlank d).head?, isBlank d = true := by
        intro d member
        have stops := List.head?_dropWhile_not (fun d => !isBlank d) rest
        rw [Option.mem_def.mp member] at stops
        simpa using stops
      have worded := Worded.next blanks (by simp) first bound later
      rw [List.append_assoc, List.cons_append, List.takeWhile_append_dropWhile, ← whole] at worded
      rw [words_of_worded worded]
      exact worded

theorem words_eq_iff {cs : List Char} {ws : List (List Char)} :
    words cs = ws ↔ Worded cs ws :=
  ⟨fun same => same ▸ worded_words cs, words_of_worded⟩

/-- The value of decimal digits, the first of which counts most. -/
def decimal (ds : List Char) : Nat :=
  Nat.ofDigits 10 (ds.reverse.map fun d => d.toNat - 48)

/-- A whole number written out: decimal digits, with zeros before them or not, and at most one plus
sign in front. -/
def Denotes (cs : List Char) (n : Nat) : Prop :=
  ∃ ds, (cs = ds ∨ cs = '+' :: ds) ∧ ds ≠ [] ∧ (∀ d ∈ ds, '0' ≤ d ∧ d ≤ '9') ∧ decimal ds = n

theorem decimal_cons (c : Char) (cs : List Char) :
    decimal (c :: cs) = (c.toNat - 48) * 10 ^ cs.length + decimal cs := by
  rw [decimal, List.reverse_cons, List.map_append, Nat.ofDigits_append, List.length_map,
    List.length_reverse, List.map_singleton, Nat.ofDigits_singleton, Nat.mul_comm, Nat.add_comm]
  rfl

theorem decimal_append (cs ds : List Char) :
    decimal (cs ++ ds) = decimal cs * 10 ^ ds.length + decimal ds := by
  rw [decimal, List.reverse_append, List.map_append, Nat.ofDigits_append, List.length_map,
    List.length_reverse, Nat.add_comm, Nat.mul_comm]
  rfl

/-- Digits read after a number, which moves as many places to the front. -/
theorem readDigits_eq_ok {limit acc n : Nat} {cs : List Char} (within : acc ≤ limit) :
    readDigits limit acc cs = .ok n ↔
      (∀ c ∈ cs, '0' ≤ c ∧ c ≤ '9') ∧ acc * 10 ^ cs.length + decimal cs = n ∧ n ≤ limit := by
  induction cs generalizing acc with
  | nil =>
    simp only [readDigits, Except.ok.injEq, decimal, List.reverse_nil, List.map_nil,
      Nat.ofDigits_nil, List.length_nil, Nat.pow_zero, Nat.mul_one, Nat.add_zero]
    constructor
    · rintro rfl
      exact ⟨by simp, rfl, within⟩
    · exact fun all => all.2.1
  | cons c cs ih =>
    rw [readDigits, digitValue]
    by_cases digit : '0' ≤ c ∧ c ≤ '9'
    · rw [if_pos digit]
      dsimp only
      have total : acc * 10 ^ (c :: cs).length + decimal (c :: cs) =
          (acc * 10 + (c.toNat - 48)) * 10 ^ cs.length + decimal cs := by
        rw [decimal_cons, List.length_cons, Nat.pow_succ]
        ring
      rw [total]
      split
      · rename_i large
        refine iff_of_false (by simp) ?_
        rintro ⟨-, same, small⟩
        have first := Nat.le_mul_of_pos_right (acc * 10 + (c.toNat - 48))
          (Nat.pow_pos (n := cs.length) (show 0 < 10 by omega))
        omega
      · rename_i small
        rw [ih (by omega), List.forall_mem_cons]
        simp only [digit, true_and]
    · rw [if_neg digit]
      simp [digit]

theorem decimal_toDigits (n : Nat) : decimal (Nat.toDigits 10 n) = n := by
  have read := (readDigits_eq_ok (Nat.zero_le _)).mp (readDigits_toDigits (le_refl n))
  rw [Nat.zero_mul, Nat.zero_add] at read
  exact read.2.1

theorem readNumeral_eq_ok {limit n : Nat} {cs : List Char} :
    readNumeral limit (String.ofList cs) = .ok n ↔ Denotes cs n ∧ n ≤ limit := by
  have plain : ∀ ds : List Char, readDigits limit 0 ds = .ok n ↔
      (∀ d ∈ ds, '0' ≤ d ∧ d ≤ '9') ∧ decimal ds = n ∧ n ≤ limit := fun ds => by
    rw [readDigits_eq_ok (Nat.zero_le _), Nat.zero_mul, Nat.zero_add]
  rw [readNumeral, String.toList_ofList]
  constructor
  · intro read
    split at read
    · cases read
    · cases read
    · rename_i rest some
      obtain ⟨digits, value, small⟩ := (plain rest).mp read
      exact ⟨⟨rest, .inr rfl, by rintro rfl; exact some rfl, digits, value⟩, small⟩
    · rename_i some _ _
      obtain ⟨digits, value, small⟩ := (plain cs).mp read
      exact ⟨⟨cs, .inl rfl, some, digits, value⟩, small⟩
  · rintro ⟨⟨ds, rfl | rfl, some, digits, value⟩, small⟩
    · have read := (plain cs).mpr ⟨digits, value, small⟩
      split
      · exact absurd rfl some
      · exact absurd (digits '+' List.mem_cons_self) (by decide)
      · exact absurd (digits '+' List.mem_cons_self) (by decide)
      · exact read
    · have read := (plain ds).mpr ⟨digits, value, small⟩
      split
      · rename_i none
        cases none
      · rename_i alone
        exact absurd (List.cons.inj alone).2 some
      · rename_i same
        rwa [(List.cons.inj same).2] at read
      · rename_i other
        exact absurd rfl (other ds)

def chomp (line : List Char) : List Char :=
  if line.getLast? = some '\r' then line.dropLast else line

/-- The lines of a text: what line feeds end, and what is left behind the last of them. -/
inductive Lined : List Char → List (List Char) → Prop where
  | none : Lined [] []
  | last {line : List Char} : line ≠ [] → '\n' ∉ line → Lined line [line]
  | feed {line rest : List Char} {ls : List (List Char)} :
    '\n' ∉ line → Lined rest ls → Lined (line ++ '\n' :: rest) (chomp line :: ls)

theorem lines_of_one {line : List Char} (some : line ≠ []) (one : '\n' ∉ line) :
    lines line = [line] := by
  induction line with
  | nil => exact absurd rfl some
  | cons c line ih =>
    have first : c ≠ '\n' := (List.ne_of_not_mem_cons one).symm
    have later := List.not_mem_of_not_mem_cons one
    rw [lines]
    · cases line with
      | nil => simp [attach, lines]
      | cons d line => simp [ih (by simp) later, attach]
    · exact first
    · rintro rest - rfl
      exact later List.mem_cons_self

theorem lines_feed {line : List Char} (one : '\n' ∉ line) (rest : List Char) :
    lines (line ++ '\n' :: rest) = chomp line :: lines rest := by
  induction line with
  | nil => rw [List.nil_append, lines]; rfl
  | cons c line ih =>
    have first : c ≠ '\n' := (List.ne_of_not_mem_cons one).symm
    have later := List.not_mem_of_not_mem_cons one
    cases line with
    | nil =>
      by_cases returned : c = '\r'
      · simp [returned, lines, chomp]
      · simp [lines, attach, returned, chomp]
    | cons d line =>
      have second : '\n' ≠ d := List.ne_of_not_mem_cons later
      have longer : chomp (c :: d :: line) = c :: chomp (d :: line) := by
        rw [chomp, chomp, List.getLast?_cons_cons]
        split <;> rfl
      rw [List.cons_append, lines, ih later, longer]
      · rfl
      · exact first
      · rintro rest - same
        exact second (List.cons.inj same).1.symm

theorem lined_lines (cs : List Char) : Lined cs (lines cs) := by
  generalize size : cs.length = n
  induction n using Nat.strongRecOn generalizing cs with
  | ind n ih =>
    by_cases feed : '\n' ∈ cs
    · obtain ⟨line, rest, rfl, one⟩ := List.eq_append_cons_of_mem feed
      rw [lines_feed one]
      rw [List.length_append, List.length_cons] at size
      exact .feed one (ih rest.length (by omega) rest rfl)
    · cases cs with
      | nil => exact .none
      | cons c rest =>
        rw [lines_of_one (by simp) feed]
        exact .last (by simp) feed

theorem lines_append_feed (a b : List Char) :
    lines (a ++ '\n' :: b) = lines (a ++ ['\n']) ++ lines b := by
  have lined := lined_lines a
  generalize lines a = ls at lined
  induction lined with
  | none => simp [lines]
  | last some one => rw [lines_feed one, lines_feed one]; rfl
  | feed one _ ih =>
    rw [List.append_assoc, List.append_assoc, List.cons_append, List.cons_append, lines_feed one,
      lines_feed one, ih]
    rfl

theorem length_lines_feed (a : List Char) :
    (lines (a ++ ['\n'])).length = (a ++ ['\n']).count '\n' := by
  have lined := lined_lines a
  generalize lines a = ls at lined
  induction lined with
  | none => rfl
  | @last line some one => simp [lines_feed one, lines, List.count_eq_zero_of_not_mem one]
  | @feed line rest ls one _ ih =>
    rw [List.append_assoc, List.cons_append, lines_feed one, List.length_cons, ih]
    simp [List.count_eq_zero_of_not_mem one]

end MountProbe.Text
