import MountProbe.Pattern.Search

namespace MountProbe.Pattern

variable {text : List Char} {length : Nat} {reach : Nat → Nat → Prop} {step : Nat → Nat}

def On (places i : Nat) : Prop :=
  places.testBit i = true

def Within (length places : Nat) : Prop :=
  ∀ i, On places i → i ≤ length

/-- No repetition has fewer than its least number of times as the most. -/
def Expr.Ordered : Expr → Prop
  | .empty | .set _ | .place _ => True
  | .seq a b | .alt a b => a.Ordered ∧ b.Ordered
  | .repeated a least most => a.Ordered ∧ ∀ m, most = some m → least ≤ m

structure Forward (length : Nat) (reach : Nat → Nat → Prop) : Prop where
  le : ∀ i j, reach i j → i ≤ j
  within : ∀ i j, reach i j → i ≤ length → j ≤ length

theorem forward_chain (forward : Forward length reach) (n : Nat) :
    Forward length (Chain reach n) := by
  constructor
  · intro i j chain
    induction chain with
    | nil => exact Nat.le_refl _
    | cons first _ ih => exact Nat.le_trans (forward.le _ _ first) ih
  · intro i j chain
    induction chain with
    | nil => exact id
    | cons first _ ih => exact fun inside => ih (forward.within _ _ first inside)

theorem Expr.forward (text : List Char) (e : Expr) : Forward text.length (e.Matches text) := by
  induction e with
  | empty =>
    constructor
    · rintro i _ rfl
      exact Nat.le_refl _
    · rintro i _ rfl
      exact id
  | set s =>
    constructor
    · rintro i _ ⟨c, -, -, rfl⟩
      omega
    · rintro i _ ⟨c, there, -, rfl⟩ -
      exact (List.getElem?_eq_some_iff.mp there).1
  | place p =>
    constructor
    · rintro i _ ⟨rfl, -⟩
      exact Nat.le_refl _
    · rintro i _ ⟨rfl, -⟩
      exact id
  | seq a b iha ihb =>
    constructor
    · rintro i k ⟨j, first, second⟩
      exact Nat.le_trans (iha.le _ _ first) (ihb.le _ _ second)
    · rintro i k ⟨j, first, second⟩ inside
      exact ihb.within _ _ second (iha.within _ _ first inside)
  | alt a b iha ihb =>
    constructor
    · rintro i j (found | found)
      · exact iha.le _ _ found
      · exact ihb.le _ _ found
    · rintro i j (found | found)
      · exact iha.within _ _ found
      · exact ihb.within _ _ found
  | repeated a least most ih =>
    constructor
    · rintro i j ⟨n, -, -, chain⟩
      exact (forward_chain ih n).le _ _ chain
    · rintro i j ⟨n, -, -, chain⟩
      exact (forward_chain ih n).within _ _ chain

theorem chain_zero {i j : Nat} : Chain reach 0 i j ↔ i = j := by
  constructor
  · intro chain
    cases chain
    rfl
  · rintro rfl
    exact .nil i

theorem chain_succ {n i k : Nat} :
    Chain reach (n + 1) i k ↔ ∃ j, reach i j ∧ Chain reach n j k := by
  constructor
  · intro chain
    cases chain with
    | cons first rest => exact ⟨_, first, rest⟩
  · rintro ⟨j, first, rest⟩
    exact .cons first rest

theorem chain_add {m n i k : Nat} :
    Chain reach (m + n) i k ↔ ∃ j, Chain reach m i j ∧ Chain reach n j k := by
  induction m generalizing i with
  | zero => simp only [Nat.zero_add, chain_zero, exists_eq_left']
  | succ m ih =>
    simp only [Nat.succ_add, chain_succ, ih]
    constructor
    · rintro ⟨h, first, j, before, after⟩
      exact ⟨j, ⟨h, first, before⟩, after⟩
    · rintro ⟨j, ⟨h, first, before⟩, after⟩
      exact ⟨h, first, j, before, after⟩

theorem short_chain (forward : Forward length reach) {n i j : Nat} (chain : Chain reach n i j) :
    ∃ m, m ≤ j - i ∧ Chain reach m i j := by
  induction chain with
  | nil i => exact ⟨0, Nat.zero_le _, .nil i⟩
  | @cons n i j k first rest ih =>
    obtain ⟨m, short, again⟩ := ih
    have start := forward.le _ _ first
    have onward := (forward_chain forward m).le _ _ again
    by_cases stays : i = j
    · subst stays
      exact ⟨m, short, again⟩
    · exact ⟨m + 1, by omega, .cons first again⟩

def Moves (length : Nat) (step : Nat → Nat) (reach : Nat → Nat → Prop) : Prop :=
  ∀ places, Within length places → ∀ j, On (step places) j ↔ ∃ i, On places i ∧ reach i j

theorem Moves.within (moves : Moves length step reach) (forward : Forward length reach)
    {places : Nat} (inside : Within length places) : Within length (step places) := by
  intro j reached
  obtain ⟨i, start, goes⟩ := (moves places inside j).mp reached
  exact forward.within i j goes (inside i start)

theorem Moves.comp {first second : Nat → Nat} {onward : Nat → Nat → Prop}
    (begun : Moves length first reach) (forward : Forward length reach)
    (ended : Moves length second onward) :
    Moves length (fun places => second (first places)) fun i k => ∃ j, reach i j ∧ onward j k := by
  intro places inside k
  have inside' := begun.within forward inside
  constructor
  · intro reached
    obtain ⟨j, reached, later⟩ := (ended _ inside' k).mp reached
    obtain ⟨i, start, sooner⟩ := (begun _ inside j).mp reached
    exact ⟨i, start, j, sooner, later⟩
  · rintro ⟨i, start, j, sooner, later⟩
    exact (ended _ inside' k).mpr ⟨j, (begun _ inside j).mpr ⟨i, start, sooner⟩, later⟩

theorem Moves.congr {other : Nat → Nat → Prop} (moves : Moves length step reach)
    (same : ∀ i k, i ≤ length → (reach i k ↔ other i k)) : Moves length step other := by
  intro places inside k
  rw [moves places inside k]
  constructor
  · rintro ⟨i, start, goes⟩
    exact ⟨i, start, (same i k (inside i start)).mp goes⟩
  · rintro ⟨i, start, goes⟩
    exact ⟨i, start, (same i k (inside i start)).mpr goes⟩

theorem on_or {a b i : Nat} : On (a ||| b) i ↔ On a i ∨ On b i := by
  simp only [On, Nat.testBit_or, Bool.or_eq_true]

theorem on_and {a b i : Nat} : On (a &&& b) i ↔ On a i ∧ On b i := by
  simp only [On, Nat.testBit_and, Bool.and_eq_true]

theorem on_iff_chain_zero {places j : Nat} :
    On places j ↔ ∃ i, On places i ∧ Chain reach 0 i j := by
  simp only [chain_zero, exists_eq_right]

theorem exists_chain_succ (moves : Moves length step reach) {places : Nat}
    (inside : Within length places) {n j : Nat} :
    (∃ i, On places i ∧ Chain reach (n + 1) i j) ↔
      ∃ i, On (step places) i ∧ Chain reach n i j := by
  simp only [chain_succ, moves places inside]
  constructor
  · rintro ⟨h, start, i, goes, chain⟩
    exact ⟨i, ⟨h, start, goes⟩, chain⟩
  · rintro ⟨i, ⟨h, start, goes⟩, chain⟩
    exact ⟨h, start, i, goes, chain⟩

theorem chain_of_settled (moves : Moves length step reach) {places : Nat}
    (inside : Within length places) (settled : step places = places) (n j : Nat) :
    On places j ↔ ∃ i, On places i ∧ Chain reach n i j := by
  induction n with
  | zero => exact on_iff_chain_zero
  | succ n ih => rw [exists_chain_succ moves inside, settled, ih]

theorem iterate_moves (moves : Moves length step reach) (forward : Forward length reach)
    (n : Nat) : Moves length (iterate step n) (Chain reach n) := by
  induction n with
  | zero => exact fun _ _ _ => on_iff_chain_zero
  | succ n ih =>
    intro places inside j
    unfold iterate
    dsimp only
    split
    · rename_i settled
      exact chain_of_settled moves inside settled (n + 1) j
    · rw [exists_chain_succ moves inside]
      exact ih _ (moves.within forward inside) j

theorem on_of_chain (moves : Moves length step reach) {places : Nat}
    (inside : Within length places) (settled : places ||| step places = places) {n i j : Nat}
    (chain : Chain reach n i j) (start : On places i) : On places j := by
  induction chain with
  | nil => exact start
  | cons first _ ih =>
    apply ih
    rw [← settled]
    exact on_or.mpr (.inr ((moves places inside _).mpr ⟨_, start, first⟩))

theorem closure_moves (moves : Moves length step reach) (forward : Forward length reach)
    (n : Nat) : Moves length (closure step n) fun i j => ∃ m, m ≤ n ∧ Chain reach m i j := by
  induction n with
  | zero =>
    intro places _ j
    constructor
    · intro start
      exact ⟨j, start, 0, Nat.le_refl _, .nil j⟩
    · rintro ⟨i, start, m, none, chain⟩
      cases Nat.le_zero.mp none
      cases chain
      exact start
  | succ n ih =>
    intro places inside j
    have one := moves places inside
    unfold closure
    dsimp only
    split
    · rename_i settled
      constructor
      · intro start
        exact ⟨j, start, 0, Nat.zero_le _, .nil j⟩
      · rintro ⟨i, start, m, -, chain⟩
        exact on_of_chain moves inside settled chain start
    · have grown : Within length (places ||| step places) := by
        intro i reached
        rcases on_or.mp reached with start | reached
        · exact inside i start
        · exact moves.within forward inside i reached
      constructor
      · intro reached
        obtain ⟨i, start, m, few, chain⟩ := (ih _ grown j).mp reached
        rcases on_or.mp start with start | reached
        · exact ⟨i, start, m, by omega, chain⟩
        · obtain ⟨h, start, goes⟩ := (one i).mp reached
          exact ⟨h, start, m + 1, by omega, .cons goes chain⟩
      · rintro ⟨i, start, m, few, chain⟩
        apply (ih _ grown j).mpr
        cases chain with
        | nil => exact ⟨_, on_or.mpr (.inl start), 0, Nat.zero_le _, .nil _⟩
        | @cons m _ k _ first rest =>
          exact ⟨k, on_or.mpr (.inr ((one k).mpr ⟨i, start, first⟩)), m, by omega, rest⟩

theorem chain_without_most (forward : Forward length reach) {least i k : Nat}
    (inside : i ≤ length) :
    (∃ j, Chain reach least i j ∧ ∃ m, m ≤ length + 1 ∧ Chain reach m j k) ↔
      ∃ n, least ≤ n ∧ (∀ m, none = some m → n ≤ m) ∧ Chain reach n i k := by
  constructor
  · rintro ⟨j, sooner, m, -, later⟩
    exact ⟨least + m, Nat.le_add_right _ _, nofun, chain_add.mpr ⟨j, sooner, later⟩⟩
  · rintro ⟨n, enough, -, chain⟩
    obtain ⟨m, rfl⟩ := Nat.exists_eq_add_of_le enough
    obtain ⟨j, sooner, later⟩ := chain_add.mp chain
    obtain ⟨m', short, later⟩ := short_chain forward later
    have place := (forward_chain forward least).within i j sooner inside
    have end_inside := (forward_chain forward m').within j k later place
    exact ⟨j, sooner, m', by omega, later⟩

theorem chain_with_most {least most i k : Nat} (bounds : least ≤ most) :
    (∃ j, Chain reach least i j ∧ ∃ m, m ≤ most - least ∧ Chain reach m j k) ↔
      ∃ n, least ≤ n ∧ (∀ m, some most = some m → n ≤ m) ∧ Chain reach n i k := by
  constructor
  · rintro ⟨j, sooner, m, few, later⟩
    refine ⟨least + m, Nat.le_add_right _ _, ?_, chain_add.mpr ⟨j, sooner, later⟩⟩
    rintro _ ⟨⟩
    omega
  · rintro ⟨n, enough, few, chain⟩
    obtain ⟨m, rfl⟩ := Nat.exists_eq_add_of_le enough
    obtain ⟨j, sooner, later⟩ := chain_add.mp chain
    have few := few most rfl
    exact ⟨j, sooner, m, by omega, later⟩

theorem on_step_zero (b : Bool) (places : Nat) :
    On (2 * places + if b then 1 else 0) 0 ↔ b = true := by
  cases b <;> simp [On, Nat.testBit_zero]

theorem on_step_succ (b : Bool) (places i : Nat) :
    On (2 * places + if b then 1 else 0) (i + 1) ↔ On places i := by
  have half : (2 * places + if b then 1 else 0) / 2 = places := by split <;> omega
  simp only [On, Nat.testBit_add_one, half]

theorem on_placesBefore (s : CharSet) (i : Nat) :
    On (placesBefore s text) i ↔ ∃ c, text[i]? = some c ∧ s.contains c.toNat = true := by
  induction text generalizing i with
  | nil => simp [placesBefore, On]
  | cons c rest ih =>
    cases i with
    | zero => simp [placesBefore, on_step_zero]
    | succ i => simp [placesBefore, on_step_succ, ih]

theorem on_placesOf (p : Place) (before : Option Char) (i : Nat) :
    On (placesOf p before text) i ↔
      i ≤ text.length ∧ p.holds (if i = 0 then before else text[i - 1]?) text[i]? = true := by
  induction text generalizing before i with
  | nil =>
    cases i with
    | zero => cases held : p.holds before none <;> simp [placesOf, On, held]
    | succ i => cases held : p.holds before none <;> simp [placesOf, On, held, Nat.testBit_add_one]
  | cons c rest ih =>
    cases i with
    | zero => simp [placesOf, on_step_zero]
    | succ i =>
      rw [placesOf, on_step_succ, ih]
      cases i <;> simp

theorem advance_moves (s : CharSet) (text : List Char) :
    Moves text.length (fun places => (places &&& placesBefore s text) <<< 1)
      ((Expr.set s).Matches text) := by
  intro places _ j
  constructor
  · intro reached
    simp only [On, Nat.testBit_shiftLeft, Bool.and_eq_true, decide_eq_true_eq] at reached
    obtain ⟨past, reached⟩ := reached
    obtain ⟨start, passed⟩ := on_and.mp reached
    obtain ⟨c, there, member⟩ := (on_placesBefore s _).mp passed
    exact ⟨j - 1, start, c, there, member, by omega⟩
  · rintro ⟨i, start, c, there, member, rfl⟩
    have passed := (on_placesBefore s i).mpr ⟨c, there, member⟩
    have both := on_and.mpr ⟨start, passed⟩
    simpa [On, Nat.testBit_shiftLeft] using both

theorem filter_moves (p : Place) (text : List Char) :
    Moves text.length (fun places => places &&& placesOf p none text)
      ((Expr.place p).Matches text) := by
  intro places _ j
  simp only [Expr.Matches, on_and, on_placesOf]
  constructor
  · rintro ⟨start, inside, holds⟩
    exact ⟨j, start, rfl, inside, holds⟩
  · rintro ⟨_, start, rfl, inside, holds⟩
    exact ⟨start, inside, holds⟩

theorem Plan.ends_moves {e : Expr} (ordered : e.Ordered) (text : List Char) :
    Moves text.length ((e.plan text).ends text.length) (e.Matches text) := by
  induction e with
  | empty =>
    intro places _ j
    constructor
    · intro start
      exact ⟨j, start, rfl⟩
    · rintro ⟨_, start, rfl⟩
      exact start
  | set s => exact advance_moves s text
  | place p => exact filter_moves p text
  | seq a b iha ihb => exact (iha ordered.1).comp (a.forward text) (ihb ordered.2)
  | alt a b iha ihb =>
    intro places inside j
    have left := iha ordered.1 _ inside j
    have right := ihb ordered.2 _ inside j
    simp only [Expr.plan, Plan.ends, Expr.Matches, on_or, left, right, and_or_left, exists_or]
  | repeated a least most ih =>
    have moves := ih ordered.1
    have forward := a.forward text
    have begun := iterate_moves moves forward least
    have forward' := forward_chain forward least
    cases most with
    | none =>
      have onward := begun.comp forward' (closure_moves moves forward (text.length + 1))
      exact onward.congr fun i k inside => chain_without_most forward inside
    | some most =>
      have onward := begun.comp forward' (closure_moves moves forward (most - least))
      exact onward.congr fun i k _ => chain_with_most (ordered.2 most rfl)

theorem isFoundIn_iff {e : Expr} (ordered : e.Ordered) (text : List Char) :
    e.isFoundIn text = true ↔ ∃ i j, i ≤ text.length ∧ e.Matches text i j := by
  have begun : ∀ i, On (Nat.pow 2 (text.length + 1) - 1) i ↔ i ≤ text.length := by
    intro i
    simp only [On, Nat.pow_eq, Nat.testBit_two_pow_sub_one, decide_eq_true_eq]
    omega
  have moves := Plan.ends_moves ordered text _ (fun i => (begun i).mp)
  simp only [Expr.isFoundIn, bne_iff_ne]
  constructor
  · intro found
    obtain ⟨j, reached⟩ := Nat.exists_testBit_of_ne_zero found
    obtain ⟨i, start, matched⟩ := (moves j).mp reached
    exact ⟨i, j, (begun i).mp start, matched⟩
  · rintro ⟨i, j, start, matched⟩ nothing
    have reached := (moves j).mpr ⟨i, (begun i).mpr start, matched⟩
    rw [nothing] at reached
    exact absurd reached (by simp [On])

end MountProbe.Pattern
