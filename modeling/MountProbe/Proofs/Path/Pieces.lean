import MountProbe.Path
import Mathlib.Data.List.TakeWhile

namespace MountProbe.Path

section

variable {raw a b q : Bytes} {ps : List Bytes} {p : Path} {x : UInt8}

theorem exists_first_piece (raw : Bytes) : ∃ q qs, splitAtSlashes raw = q :: qs := by
  induction raw with
  | nil => exact ⟨[], [], rfl⟩
  | cons y raw ih =>
    obtain ⟨q, qs, found⟩ := ih
    rw [splitAtSlashes, found]
    dsimp only
    split
    · exact ⟨_, _, rfl⟩
    · exact ⟨_, _, rfl⟩

theorem splitAtSlashes_slash (raw : Bytes) :
    splitAtSlashes (slash :: raw) = [] :: splitAtSlashes raw := by
  obtain ⟨q, qs, found⟩ := exists_first_piece raw
  rw [splitAtSlashes, found]
  rfl

theorem splitAtSlashes_cons (other : x ≠ slash) (raw : Bytes) :
    ∃ q qs, splitAtSlashes raw = q :: qs ∧ splitAtSlashes (x :: raw) = (x :: q) :: qs := by
  obtain ⟨q, qs, found⟩ := exists_first_piece raw
  refine ⟨q, qs, found, ?_⟩
  rw [splitAtSlashes, found]
  dsimp only
  rw [if_neg other]

theorem splitAtSlashes_append_slash (a b : Bytes) :
    splitAtSlashes (a ++ slash :: b) = splitAtSlashes a ++ splitAtSlashes b := by
  induction a with
  | nil => exact splitAtSlashes_slash b
  | cons y a ih =>
    rw [List.cons_append]
    by_cases at_slash : y = slash
    · rw [at_slash, splitAtSlashes_slash, splitAtSlashes_slash, ih, List.cons_append]
    · obtain ⟨q, qs, short, long⟩ := splitAtSlashes_cons at_slash a
      obtain ⟨q', qs', short', long'⟩ := splitAtSlashes_cons at_slash (a ++ slash :: b)
      rw [ih, short, List.cons_append] at short'
      obtain ⟨rfl, rfl⟩ := List.cons.inj short'
      rw [long, long', List.cons_append]

theorem mem_iff_of_ne_slash (other : x ≠ slash) :
    x ∈ raw ↔ ∃ q ∈ splitAtSlashes raw, x ∈ q := by
  induction raw with
  | nil => simp [splitAtSlashes]
  | cons y raw ih =>
    by_cases at_slash : y = slash
    · rw [at_slash, splitAtSlashes_slash, List.mem_cons, ih]
      simp [other]
    · obtain ⟨q, qs, short, long⟩ := splitAtSlashes_cons at_slash raw
      rw [List.mem_cons, ih, short, long]
      simp [or_assoc]

theorem no_slash_of_mem (piece : q ∈ splitAtSlashes raw) : slash ∉ q := by
  induction raw generalizing q with
  | nil =>
    rw [splitAtSlashes, List.mem_singleton] at piece
    simp [piece]
  | cons y raw ih =>
    by_cases at_slash : y = slash
    · rw [at_slash, splitAtSlashes_slash, List.mem_cons] at piece
      rcases piece with rfl | later
      · simp
      · exact ih later
    · obtain ⟨q', qs, short, long⟩ := splitAtSlashes_cons at_slash raw
      rw [long, List.mem_cons] at piece
      rcases piece with rfl | later
      · intro member
        rcases List.mem_cons.mp member with here | inner
        · exact at_slash here.symm
        · exact ih (by rw [short]; exact List.mem_cons_self) inner
      · exact ih (by rw [short]; exact List.mem_cons_of_mem _ later)

theorem splitAtSlashes_of_no_slash (no_slash : slash ∉ q) : splitAtSlashes q = [q] := by
  induction q with
  | nil => rfl
  | cons y q ih =>
    obtain ⟨other, inner⟩ := List.ne_and_not_mem_of_not_mem_cons no_slash
    obtain ⟨q', qs, short, long⟩ := splitAtSlashes_cons (Ne.symm other) q
    rw [ih inner] at short
    cases short
    exact long

theorem splitAtSlashes_joinPieces (some : ps ≠ []) (no_slash : ∀ q ∈ ps, slash ∉ q) :
    splitAtSlashes (joinPieces ps) = ps := by
  induction ps with
  | nil => exact absurd rfl some
  | cons q qs ih =>
    have single := splitAtSlashes_of_no_slash (no_slash q List.mem_cons_self)
    cases qs with
    | nil => exact single
    | cons r rs =>
      rw [joinPieces, splitAtSlashes_append_slash, single,
        ih (by simp) fun k member => no_slash k (List.mem_cons_of_mem _ member)]
      rfl

theorem joinPieces_splitAtSlashes (raw : Bytes) : joinPieces (splitAtSlashes raw) = raw := by
  induction raw with
  | nil => rfl
  | cons y raw ih =>
    obtain ⟨q, qs, found⟩ := exists_first_piece raw
    rw [found] at ih
    by_cases at_slash : y = slash
    · rw [at_slash, splitAtSlashes_slash, found, joinPieces, ih, List.nil_append]
    · obtain ⟨q', qs', short, long⟩ := splitAtSlashes_cons at_slash raw
      rw [found] at short
      cases short
      rw [long]
      cases qs with
      | nil => exact congrArg (y :: ·) ih
      | cons r rs => exact congrArg (y :: ·) ih

theorem stepOf_of_idle (idle : isIdle q = true) : stepOf q = none := by
  rw [stepOf, if_pos idle]

theorem stepOf_of_not_idle (real : isIdle q = false) : ∃ c, stepOf q = some c := by
  rw [stepOf, if_neg (by simp [real])]
  split
  · exact ⟨_, rfl⟩
  · exact ⟨_, rfl⟩

theorem dropIdleEnd_spec (ps : List Bytes) : ∃ idle, ps = dropIdleEnd ps ++ idle ∧
    (∀ q ∈ idle, isIdle q = true) ∧ ∀ q, (dropIdleEnd ps).getLast? = some q → isIdle q = false := by
  refine ⟨(ps.reverse.takeWhile isIdle).reverse, ?_, ?_, ?_⟩
  · rw [dropIdleEnd, ← List.reverse_append, List.takeWhile_append_dropWhile, List.reverse_reverse]
  · intro q member
    exact List.mem_takeWhile_imp (List.mem_reverse.mp member)
  · intro q last
    rw [dropIdleEnd, List.getLast?_reverse] at last
    have first := List.head?_dropWhile_not isIdle ps.reverse
    rw [last] at first
    exact first

theorem filterMap_of_idle (idle : ∀ q ∈ ps, isIdle q = true) : ps.filterMap stepOf = [] := by
  rw [List.filterMap_eq_nil_iff]
  exact fun q member => stepOf_of_idle (idle q member)

theorem filterMap_dropIdleEnd (ps : List Bytes) :
    (dropIdleEnd ps).filterMap stepOf = ps.filterMap stepOf := by
  obtain ⟨idle, whole, all, -⟩ := dropIdleEnd_spec ps
  calc (dropIdleEnd ps).filterMap stepOf
      = (dropIdleEnd ps ++ idle).filterMap stepOf := by
        rw [List.filterMap_append, filterMap_of_idle all, List.append_nil]
    _ = ps.filterMap stepOf := by rw [← whole]

theorem afterSteps_idle (idle : isIdle q = true) (n : Nat) :
    afterSteps n (q :: ps) = afterSteps n ps := by
  cases n <;> simp [afterSteps, idle]

theorem afterSteps_zero (real : isIdle q = false) : afterSteps 0 (q :: ps) = q :: ps := by
  simp [afterSteps, real]

theorem afterSteps_succ (real : isIdle q = false) (n : Nat) :
    afterSteps (n + 1) (q :: ps) = afterSteps n ps := by
  simp [afterSteps, real]

theorem filterMap_afterSteps (n : Nat) (ps : List Bytes) :
    (afterSteps n ps).filterMap stepOf = (ps.filterMap stepOf).drop n := by
  induction ps generalizing n with
  | nil => cases n <;> rfl
  | cons q qs ih =>
    cases idle : isIdle q with
    | true => rw [afterSteps_idle idle, ih, List.filterMap_cons, stepOf_of_idle idle]
    | false =>
      obtain ⟨c, step⟩ := stepOf_of_not_idle idle
      cases n with
      | zero => rw [afterSteps_zero idle, List.drop_zero]
      | succ n => rw [afterSteps_succ idle, ih, List.filterMap_cons, step, List.drop_succ_cons]

theorem afterSteps_suffix (n : Nat) (ps : List Bytes) : afterSteps n ps <:+ ps := by
  induction ps generalizing n with
  | nil => cases n <;> exact List.suffix_refl _
  | cons q qs ih =>
    cases idle : isIdle q with
    | true =>
      rw [afterSteps_idle idle]
      exact (ih n).trans (List.suffix_cons q qs)
    | false =>
      cases n with
      | zero => simp only [afterSteps_zero idle, List.suffix_refl]
      | succ n =>
        rw [afterSteps_succ idle]
        exact (ih n).trans (List.suffix_cons q qs)

theorem head_afterSteps {n : Nat} (first : (afterSteps n ps).head? = some q) :
    isIdle q = false := by
  induction ps generalizing n with
  | nil => cases n <;> cases first
  | cons k ks ih =>
    cases idle : isIdle k with
    | true =>
      rw [afterSteps_idle idle] at first
      exact ih first
    | false =>
      cases n with
      | zero =>
        rw [afterSteps_zero idle] at first
        cases first
        exact idle
      | succ n =>
        rw [afterSteps_succ idle] at first
        exact ih first

end

end MountProbe.Path
