import MountProbe.Proofs.Pattern.Search

namespace MountProbe.Pattern

/-- The expression describes the word where it stands between two others. -/
def Expr.Describes (e : Expr) (before word after : List Char) : Prop :=
  e.Matches (before ++ word ++ after) before.length (before.length + word.length)

variable {e a b : Expr} {s : CharSet} {before word after w : List Char}

theorem exists_cut {i : Nat} {text : List Char} (inside : i ≤ text.length) :
    ∃ u v, text = u ++ v ∧ u.length = i :=
  ⟨text.take i, text.drop i, (List.take_append_drop i text).symm, List.length_take_of_le inside⟩

theorem matches_iff_describes {text : List Char} {i j : Nat} (inside : i ≤ text.length) :
    e.Matches text i j ↔ ∃ before word after, text = before ++ word ++ after ∧
      i = before.length ∧ j = before.length + word.length ∧ e.Describes before word after := by
  constructor
  · intro matched
    have start := (e.forward text).le _ _ matched
    obtain ⟨upto, after, rfl, rfl⟩ := exists_cut ((e.forward text).within _ _ matched inside)
    obtain ⟨before, word, rfl, rfl⟩ := exists_cut start
    rw [List.length_append] at matched ⊢
    exact ⟨before, word, after, rfl, rfl, rfl, matched⟩
  · rintro ⟨before, word, after, rfl, rfl, rfl, described⟩
    exact described

theorem isFoundIn_iff_describes (ordered : e.Ordered) (text : List Char) :
    e.isFoundIn text = true ↔
      ∃ before word after, text = before ++ word ++ after ∧ e.Describes before word after := by
  rw [isFoundIn_iff ordered]
  constructor
  · rintro ⟨i, j, inside, matched⟩
    obtain ⟨before, word, after, whole, -, -, described⟩ := (matches_iff_describes inside).mp matched
    exact ⟨before, word, after, whole, described⟩
  · rintro ⟨before, word, after, rfl, described⟩
    exact ⟨_, _, by simp, described⟩

theorem describes_seq : (Expr.seq a b).Describes before word after ↔
    ∃ u v, word = u ++ v ∧ a.Describes before u (v ++ after) ∧ b.Describes (before ++ u) v after := by
  unfold Expr.Describes
  constructor
  · rintro ⟨j, first, second⟩
    have start := (a.forward _).le _ _ first
    have onward := (b.forward _).le _ _ second
    obtain ⟨n, rfl⟩ := Nat.exists_eq_add_of_le start
    obtain ⟨u, v, rfl, rfl⟩ := exists_cut (Nat.le_of_add_le_add_left onward)
    refine ⟨u, v, rfl, ?_, ?_⟩
    · simpa only [List.append_assoc] using first
    · simpa only [List.append_assoc, List.length_append, Nat.add_assoc] using second
  · rintro ⟨u, v, rfl, first, second⟩
    refine ⟨before.length + u.length, ?_, ?_⟩
    · simpa only [List.append_assoc] using first
    · simpa only [List.append_assoc, List.length_append, Nat.add_assoc] using second

theorem describes_alt : (Expr.alt a b).Describes before word after ↔
    a.Describes before word after ∨ b.Describes before word after :=
  Iff.rfl

theorem describes_set : (Expr.set s).Describes before word after ↔
    ∃ c, word = [c] ∧ s.contains c.toNat = true := by
  unfold Expr.Describes Expr.Matches
  constructor
  · rintro ⟨c, there, member, one⟩
    obtain ⟨d, rfl⟩ := List.length_eq_one_iff.mp (by omega : word.length = 1)
    have same : d = c := by simpa using there
    exact ⟨d, rfl, same ▸ member⟩
  · rintro ⟨c, rfl, member⟩
    exact ⟨c, by simp, member, rfl⟩

theorem describes_textStart :
    (Expr.place .textStart).Describes before word after ↔ before = [] ∧ word = [] := by
  unfold Expr.Describes Expr.Matches
  constructor
  · rintro ⟨none, -, holds⟩
    have empty : word = [] := List.eq_nil_of_length_eq_zero (by omega)
    cases before with
    | nil => exact ⟨rfl, empty⟩
    | cons c cs =>
      have bound : cs.length < (c :: cs ++ word ++ after).length := by
        simp only [List.length_append, List.length_cons]
        omega
      simp only [List.length_cons, Nat.add_one_ne_zero, if_false, Nat.add_sub_cancel, Place.holds,
        List.getElem?_eq_getElem bound, Option.isNone_some, Bool.false_eq_true] at holds
  · rintro ⟨rfl, rfl⟩
    exact ⟨rfl, Nat.zero_le _, rfl⟩

theorem describes_textEnd :
    (Expr.place .textEnd).Describes before word after ↔ word = [] ∧ after = [] := by
  unfold Expr.Describes Expr.Matches
  constructor
  · rintro ⟨none, -, holds⟩
    have empty : word = [] := List.eq_nil_of_length_eq_zero (by omega)
    subst empty
    simpa [Place.holds] using holds
  · rintro ⟨rfl, rfl⟩
    exact ⟨rfl, by simp, by simp [Place.holds]⟩

theorem chain_of_set (before word after : List Char) (n : Nat) :
    Chain ((Expr.set s).Matches (before ++ word ++ after)) n before.length
        (before.length + word.length) ↔
      word.length = n ∧ ∀ c ∈ word, s.contains c.toNat = true := by
  induction n generalizing before word with
  | zero =>
    rw [chain_zero]
    constructor
    · intro none
      cases List.eq_nil_of_length_eq_zero (by omega : word.length = 0)
      exact ⟨rfl, by simp⟩
    · rintro ⟨none, -⟩
      omega
  | succ n ih =>
    rw [chain_succ]
    constructor
    · rintro ⟨_, ⟨c, there, member, rfl⟩, rest⟩
      have onward := (forward_chain ((Expr.set s).forward _) n).le _ _ rest
      cases word with
      | nil => exact absurd onward (Nat.not_succ_le_self _)
      | cons d word =>
        have same : d = c := by simpa using there
        subst same
        have again := (ih (before ++ [d]) word).mp
          (by simpa [Nat.add_comm, Nat.add_left_comm] using rest)
        simp only [List.length_cons, again.1, List.forall_mem_cons, member, true_and]
        exact again.2
    · rintro ⟨length_eq, members⟩
      cases word with
      | nil => cases length_eq
      | cons d word =>
        simp only [List.forall_mem_cons] at members
        have rest := (ih (before ++ [d]) word).mpr
          ⟨Nat.succ.inj length_eq, members.2⟩
        refine ⟨before.length + 1, ⟨d, by simp, members.1, rfl⟩, ?_⟩
        simpa [Nat.add_comm, Nat.add_left_comm] using rest

theorem describes_repeated_set {least : Nat} {most : Option Nat} :
    (Expr.repeated (.set s) least most).Describes before word after ↔
      least ≤ word.length ∧ (∀ m, most = some m → word.length ≤ m) ∧
        ∀ c ∈ word, s.contains c.toNat = true := by
  constructor
  · rintro ⟨n, enough, few, chain⟩
    obtain ⟨rfl, members⟩ := (chain_of_set _ _ _ _).mp chain
    exact ⟨enough, few, members⟩
  · rintro ⟨enough, few, members⟩
    exact ⟨_, enough, few, (chain_of_set _ _ _ _).mpr ⟨rfl, members⟩⟩

@[simp] theorem contains_single (c d : Char) :
    (CharSet.single c).contains d.toNat = true ↔ d = c := by
  have numbers : d.toNat = c.toNat ↔ d = c := by
    rw [Char.toNat, Char.toNat, UInt32.toNat_inj, Char.ext_iff]
  simp only [CharSet.single, CharSet.range, CharSet.contains, Unicode.Ranges.contains, List.any_cons,
    List.any_nil, Bool.or_false, Bool.and_eq_true, decide_eq_true_eq, beq_iff_eq, ← numbers]
  omega

def spelled : List Char → Expr → Expr
  | [], rest => rest
  | c :: cs, rest => .seq (.set (.single c)) (spelled cs rest)

/-- The characters of a word in sequence, as a pattern that spells it is read. -/
def wordExpr : List Char → Expr
  | [] => .empty
  | [c] => .set (.single c)
  | c :: d :: cs => .seq (.set (.single c)) (wordExpr (d :: cs))

def choiceExpr (e : Expr) : List Expr → Expr
  | [] => e
  | f :: fs => .alt e (choiceExpr f fs)

theorem describes_spelled : (spelled w e).Describes before word after ↔
    ∃ v, word = w ++ v ∧ e.Describes (before ++ w) v after := by
  induction w generalizing before word with
  | nil => simp [spelled]
  | cons c w ih =>
    simp only [spelled, describes_seq, describes_set, contains_single, ih]
    constructor
    · rintro ⟨_, _, rfl, ⟨_, rfl, rfl⟩, v, rfl, described⟩
      exact ⟨v, rfl, by simpa using described⟩
    · rintro ⟨v, rfl, described⟩
      exact ⟨[c], w ++ v, rfl, ⟨c, rfl, rfl⟩, v, rfl, by simpa using described⟩

theorem describes_empty : Expr.empty.Describes before word after ↔ word = [] := by
  unfold Expr.Describes Expr.Matches
  constructor
  · intro none
    exact List.eq_nil_of_length_eq_zero (by omega)
  · rintro rfl
    rfl

theorem describes_wordExpr :
    (wordExpr w).Describes before word after ↔ word = w := by
  induction w generalizing before word with
  | nil => exact describes_empty
  | cons c w ih =>
    cases w with
    | nil => simp only [wordExpr, describes_set, contains_single, exists_eq_right]
    | cons d w =>
      simp only [wordExpr, describes_seq, describes_set, contains_single, exists_eq_right, ih]
      constructor
      · rintro ⟨_, _, rfl, rfl, rfl⟩
        rfl
      · rintro rfl
        exact ⟨[c], d :: w, rfl, rfl, rfl⟩

theorem describes_choiceExpr {es : List Expr} : (choiceExpr e es).Describes before word after ↔
    ∃ f ∈ e :: es, f.Describes before word after := by
  induction es generalizing e with
  | nil => simp [choiceExpr]
  | cons f es ih =>
    simp only [choiceExpr, describes_alt, ih, List.mem_cons, exists_eq_or_imp]

end MountProbe.Pattern
