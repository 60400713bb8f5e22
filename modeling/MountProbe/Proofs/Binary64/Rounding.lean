import MountProbe.Binary64.Basic
import Mathlib.Algebra.Order.Field.Power
import Mathlib.Algebra.Order.Field.Rat
import Mathlib.Tactic.Linarith
import Mathlib.Tactic.Positivity
import Mathlib.Tactic.FieldSimp
import Mathlib.Tactic.Ring
import Mathlib.Tactic.NormNum

namespace MountProbe.Binary64

/-- What a finite number stands for. -/
def value? : Binary64 → Option ℚ
  | finite negative m e => some (if negative then -(m * 2 ^ e) else m * 2 ^ e)
  | _ => none

def significand : Binary64 → Nat
  | finite _ m _ => m
  | _ => 0

/-- The number is finite, no other number is nearer to the exact one, and it is the even one where
another one is as near. -/
structure IsRounded (exact : ℚ) (x : Binary64) (v : ℚ) : Prop where
  canonical : x.IsCanonical
  value : x.value? = some v
  nearest : ∀ y w, IsCanonical y → y.value? = some w → |v - exact| ≤ |w - exact|
  even : ∀ y w, IsCanonical y → y.value? = some w → |w - exact| = |v - exact| → w ≠ v →
    Even x.significand

section

variable {num den n d : Nat} {e : Int} {q x : ℚ}

structure IsNearestWhole (x : ℚ) (m : Nat) : Prop where
  nearest : ∀ k : Int, |(m : ℚ) - x| ≤ |(k : ℚ) - x|
  even : ∀ k : Int, |(k : ℚ) - x| = |(m : ℚ) - x| → k ≠ m → Even m

variable {a : Nat} {f : ℚ}

theorem apart_of_fraction (nonneg : 0 ≤ f) (le_one : f ≤ 1) (a : Nat) (k : Int) :
    ((k : ℚ) ≤ a ∧ |(k : ℚ) - (a + f)| = a + f - k) ∨
      ((a : ℚ) + 1 ≤ k ∧ |(k : ℚ) - (a + f)| = k - (a + f)) := by
  rcases le_or_gt k a with under | beyond
  · have under' : (k : ℚ) ≤ a := by exact_mod_cast under
    refine .inl ⟨under', ?_⟩
    rw [abs_of_nonpos (by linarith), neg_sub]
  · have beyond' : (a : ℚ) + 1 ≤ k := by exact_mod_cast beyond
    exact .inr ⟨beyond', abs_of_nonneg (by linarith)⟩

theorem isNearestWhole_of_low (nonneg : 0 ≤ f) (low : f < 1 / 2 ∨ f = 1 / 2 ∧ Even a) :
    IsNearestWhole (a + f) a := by
  have at_a : |(a : ℚ) - (a + f)| = f := by
    rw [abs_of_nonpos (by linarith)]
    ring
  have half : f ≤ 1 / 2 := by
    rcases low with less | ⟨equal, -⟩
    · exact less.le
    · exact equal.le
  have apart := apart_of_fraction nonneg (by linarith) a
  constructor
  · intro k
    rw [at_a]
    rcases apart k with ⟨under, same⟩ | ⟨beyond, same⟩
    · linarith
    · linarith
  · intro k tie other
    rcases apart k with ⟨under, same⟩ | ⟨beyond, same⟩
    · have equal : (k : ℚ) = a := by linarith
      exact absurd (by exact_mod_cast equal) other
    · rcases low with less | ⟨-, even⟩
      · linarith
      · exact even

theorem isNearestWhole_of_high (less : f < 1) (high : 1 / 2 < f ∨ f = 1 / 2 ∧ Even (a + 1)) :
    IsNearestWhole (a + f) (a + 1) := by
  have at_next : |((a + 1 : Nat) : ℚ) - (a + f)| = 1 - f := by
    push_cast
    rw [abs_of_nonneg (by linarith)]
    ring
  have half : 1 / 2 ≤ f := by
    rcases high with more | ⟨equal, -⟩
    · exact more.le
    · exact equal.ge
  have apart := apart_of_fraction (by linarith) less.le a
  constructor
  · intro k
    rw [at_next]
    rcases apart k with ⟨under, same⟩ | ⟨beyond, same⟩
    · linarith
    · linarith
  · intro k tie other
    rcases apart k with ⟨under, same⟩ | ⟨beyond, same⟩
    · rcases high with more | ⟨-, even⟩
      · linarith
      · exact even
    · have equal : (k : ℚ) = a + 1 := by linarith
      exact absurd (by exact_mod_cast equal) other

theorem roundQuotient_isNearest (n : Nat) (pos : 0 < d) :
    IsNearestWhole ((n : ℚ) / d) (roundQuotient n d) := by
  have d_pos : (0 : ℚ) < d := by exact_mod_cast pos
  have r_lt : ((n % d : Nat) : ℚ) < d := by exact_mod_cast Nat.mod_lt n pos
  have whole : (n : ℚ) / d = (n / d : Nat) + (n % d : Nat) / d := by
    have split : (n : ℚ) = d * (n / d : Nat) + (n % d : Nat) := by
      exact_mod_cast (Nat.div_add_mod n d).symm
    rw [div_eq_iff d_pos.ne', add_mul, div_mul_cancel₀ _ d_pos.ne', mul_comm ((n / d : Nat) : ℚ)]
    exact split
  have nonneg : (0 : ℚ) ≤ (n % d : Nat) / d := by positivity
  have less : ((n % d : Nat) : ℚ) / d < 1 := (div_lt_one d_pos).mpr r_lt
  rw [whole, roundQuotient]
  split
  · rename_i small
    apply isNearestWhole_of_low nonneg
    left
    have small' : 2 * ((n % d : Nat) : ℚ) < d := by exact_mod_cast small
    rw [div_lt_div_iff₀ d_pos two_pos]
    linarith
  · split
    · rename_i tie
      have tie' : 2 * ((n % d : Nat) : ℚ) = d := by exact_mod_cast tie
      have half : ((n % d : Nat) : ℚ) / d = 1 / 2 := by
        rw [div_eq_div_iff d_pos.ne' two_ne_zero]
        linarith
      split
      · rename_i even
        exact isNearestWhole_of_low nonneg (.inr ⟨half, Nat.even_iff.mpr even⟩)
      · rename_i odd
        apply isNearestWhole_of_high less
        exact .inr ⟨half, Nat.even_iff.mpr (by omega)⟩
    · rename_i not_small no_tie
      apply isNearestWhole_of_high less
      left
      have large : (d : ℚ) < 2 * (n % d : Nat) := by exact_mod_cast (by omega : d < 2 * (n % d))
      rw [div_lt_div_iff₀ two_pos d_pos]
      linarith

theorem cast_pow (nonneg : 0 ≤ e) : ((Nat.pow 2 e.toNat : Nat) : ℚ) = 2 ^ e := by
  obtain ⟨k, rfl⟩ := Int.eq_ofNat_of_zero_le nonneg
  rw [Int.toNat_natCast, zpow_natCast]
  exact Nat.cast_pow 2 k

theorem pow_pos' (e : Int) : (0 : ℚ) < 2 ^ e :=
  zpow_pos two_pos e

theorem quotient_of_nonneg (nonneg : 0 ≤ e) :
    (num : ℚ) / (den * Nat.pow 2 e.toNat : Nat) = num / den / 2 ^ e := by
  rw [Nat.cast_mul, cast_pow nonneg, div_div]

theorem quotient_of_neg (neg : e < 0) :
    ((num * Nat.pow 2 (-e).toNat : Nat) : ℚ) / den = num / den / 2 ^ e := by
  rw [Nat.cast_mul, cast_pow (by omega), zpow_neg, mul_div_right_comm, div_eq_mul_inv _ (2 ^ e : ℚ)]

theorem log2_bounds (num_pos : 0 < num) (den_pos : 0 < den) :
    (2 : ℚ) ^ ((num.log2 : Int) - den.log2 - 1) ≤ num / den ∧
      (num : ℚ) / den < 2 ^ ((num.log2 : Int) - den.log2 + 1) := by
  have two : (2 : ℚ) ≠ 0 := two_ne_zero
  have den_pos' : (0 : ℚ) < den := by exact_mod_cast den_pos
  have num_least : (2 : ℚ) ^ num.log2 ≤ num := by
    exact_mod_cast Nat.log2_self_le num_pos.ne'
  have num_most : (num : ℚ) < 2 ^ (num.log2 + 1) := by
    exact_mod_cast Nat.lt_log2_self
  have den_least : (2 : ℚ) ^ den.log2 ≤ den := by
    exact_mod_cast Nat.log2_self_le den_pos.ne'
  have den_most : (den : ℚ) < 2 ^ (den.log2 + 1) := by
    exact_mod_cast Nat.lt_log2_self
  constructor
  · rw [le_div_iff₀ den_pos']
    calc (2 : ℚ) ^ ((num.log2 : Int) - den.log2 - 1) * den
        ≤ 2 ^ ((num.log2 : Int) - den.log2 - 1) * 2 ^ (den.log2 + 1) := by gcongr
      _ = 2 ^ num.log2 := by
        rw [← zpow_natCast, ← zpow_natCast, ← zpow_add₀ two]
        congr 1
        push_cast
        ring
      _ ≤ num := num_least
  · rw [div_lt_iff₀ den_pos']
    calc (num : ℚ) < 2 ^ (num.log2 + 1) := num_most
      _ = 2 ^ ((num.log2 : Int) - den.log2 + 1) * 2 ^ den.log2 := by
        rw [← zpow_natCast, ← zpow_natCast, ← zpow_add₀ two]
        congr 1
        push_cast
        ring
      _ ≤ 2 ^ ((num.log2 : Int) - den.log2 + 1) * den := by gcongr

theorem exists_exponentFor (num_pos : 0 < num) (den_pos : 0 < den) : ∃ k,
    exponentFor num den = max minExponent (k - 52) ∧
      (2 : ℚ) ^ k ≤ num / den ∧ (num : ℚ) / den < 2 ^ (k + 1) := by
  obtain ⟨least, most⟩ := log2_bounds num_pos den_pos
  have den_pos' : (0 : ℚ) < den := by exact_mod_cast den_pos
  rw [exponentFor]
  generalize (num.log2 : Int) - den.log2 = guess at least most
  have below_iff : (if 0 ≤ guess then num < den * Nat.pow 2 guess.toNat
      else num * Nat.pow 2 (-guess).toNat < den) ↔ (num : ℚ) / den < 2 ^ guess := by
    split
    · rename_i nonneg
      rw [div_lt_iff₀ den_pos', ← cast_pow nonneg, mul_comm]
      exact_mod_cast Iff.rfl
    · rename_i neg
      rw [← div_lt_one (pow_pos' guess), ← quotient_of_neg (by omega), div_lt_one den_pos']
      exact Nat.cast_lt.symm
  by_cases below : (num : ℚ) / den < 2 ^ guess
  · refine ⟨guess - 1, by rw [if_pos (below_iff.mpr below)], least, ?_⟩
    rwa [sub_add_cancel]
  · exact ⟨guess, by rw [if_neg fun h => below (below_iff.mp h)], le_of_not_gt below, most⟩

theorem exponentFor_spec (num_pos : 0 < num) (den_pos : 0 < den) :
    minExponent ≤ exponentFor num den ∧
      (num : ℚ) / den < 2 ^ (exponentFor num den + 53) ∧
      ((2 : ℚ) ^ (exponentFor num den + 52) ≤ num / den ∨ exponentFor num den = minExponent) := by
  obtain ⟨k, exponent, least, most⟩ := exists_exponentFor num_pos den_pos
  rw [exponent]
  refine ⟨le_max_left _ _, ?_, ?_⟩
  · apply most.trans_le
    apply zpow_le_zpow_right₀ one_le_two
    omega
  · rcases le_total (k - 52) minExponent with small | large
    · exact .inr (max_eq_left small)
    · left
      rw [max_eq_right large, sub_add_cancel]
      exact least

def rounded (num den : Nat) (e : Int) : Nat :=
  if 0 ≤ e then roundQuotient num (den * Nat.pow 2 e.toNat)
  else roundQuotient (num * Nat.pow 2 (-e).toNat) den

theorem rounded_isNearest (num : Nat) (den_pos : 0 < den) (e : Int) :
    IsNearestWhole (num / den / 2 ^ e) (rounded num den e) := by
  rw [rounded]
  split
  · rename_i nonneg
    rw [← quotient_of_nonneg nonneg]
    exact roundQuotient_isNearest num (Nat.mul_pos den_pos (Nat.two_pow_pos _))
  · rename_i neg
    rw [← quotient_of_neg (by omega)]
    exact roundQuotient_isNearest _ den_pos

theorem IsNearestWhole.le {m : Nat} (near : IsNearestWhole x m) {k : Nat} (most : x ≤ k) :
    m ≤ k := by
  have bound := (le_abs_self _).trans (near.nearest k)
  rw [Int.cast_natCast, abs_of_nonneg (by linarith)] at bound
  have cast : (m : ℚ) ≤ k := by linarith
  exact_mod_cast cast

theorem IsNearestWhole.ge {m : Nat} (near : IsNearestWhole x m) {k : Nat} (least : k ≤ x) :
    k ≤ m := by
  have bound := (neg_le_abs _).trans (near.nearest k)
  rw [Int.cast_natCast, abs_of_nonpos (by linarith)] at bound
  have cast : (k : ℚ) ≤ m := by linarith
  exact_mod_cast cast

theorem apart_scaled (q y : ℚ) (e : Int) :
    |y * 2 ^ e - q| = |y - q / 2 ^ e| * 2 ^ e := by
  have unit := pow_pos' e
  rw [← abs_of_pos unit, ← abs_mul, abs_of_pos unit, sub_mul, div_mul_cancel₀ _ unit.ne']

theorem scaled_lt {m : Nat} (m_lt : m < 2 ^ 53) (e : Int) : (m : ℚ) * 2 ^ e < 2 ^ (53 + e) := by
  have m_lt' : (m : ℚ) < 2 ^ (53 : Int) := by exact_mod_cast m_lt
  rw [zpow_add₀ two_ne_zero]
  exact mul_lt_mul_of_pos_right m_lt' (pow_pos' e)

/-- A number is a multiple of a power of two, or is small beside it. -/
theorem value_on_grid {y : Binary64} {w : ℚ} (canonical : y.IsCanonical)
    (value : y.value? = some w) (e : Int) :
    (∃ k : Int, w = k * 2 ^ e) ∨ minExponent < e ∧ w < 2 ^ (e + 52) := by
  cases y with
  | nan => cases value
  | infinite negative => cases value
  | finite negative n f =>
    obtain ⟨n_lt, f_least, -, -⟩ := canonical
    cases value
    rcases le_or_gt e f with above | under
    · left
      have split : (2 : ℚ) ^ f = ((2 ^ (f - e).toNat : Nat) : ℚ) * 2 ^ e := by
        rw [show (2 ^ (f - e).toNat : Nat) = Nat.pow 2 (f - e).toNat from rfl,
          cast_pow (by omega), ← zpow_add₀ two_ne_zero, sub_add_cancel]
      cases negative with
      | false => exact ⟨(n * 2 ^ (f - e).toNat : Nat), by rw [split]; push_cast; simp [mul_assoc]⟩
      | true => exact ⟨-(n * 2 ^ (f - e).toNat : Nat), by rw [split]; push_cast; simp [mul_assoc]⟩
    · right
      have small : (n : ℚ) * 2 ^ f < 2 ^ (e + 52) := by
        calc (n : ℚ) * 2 ^ f < 2 ^ (53 + f) := scaled_lt n_lt f
          _ ≤ 2 ^ (e + 52) := zpow_le_zpow_right₀ one_le_two (by omega)
      refine ⟨by omega, ?_⟩
      cases negative with
      | false => exact small
      | true =>
        have nonneg : (0 : ℚ) ≤ n * 2 ^ f := mul_nonneg (Nat.cast_nonneg n) (pow_pos' f).le
        have unit := pow_pos' (e + 52)
        simp only [if_true]
        linarith

/-- To round on a grid that is fine enough is to round among all numbers. -/
theorem nearest_of_grid {m : Nat} (near : IsNearestWhole (q / 2 ^ e) m)
    (fine : (2 : ℚ) ^ (e + 52) ≤ q ∨ e = minExponent) {y : Binary64} {w : ℚ}
    (canonical : y.IsCanonical) (value : y.value? = some w) :
    |(m : ℚ) * 2 ^ e - q| ≤ |w - q| ∧
      (|w - q| = |(m : ℚ) * 2 ^ e - q| → w ≠ m * 2 ^ e → Even m) := by
  have unit := pow_pos' e
  rcases value_on_grid canonical value e with ⟨k, rfl⟩ | ⟨normal, small⟩
  · rw [apart_scaled, apart_scaled]
    refine ⟨mul_le_mul_of_nonneg_right (near.nearest k) unit.le, fun tie other => ?_⟩
    apply near.even k (mul_right_cancel₀ unit.ne' tie)
    rintro rfl
    exact other (by push_cast; rfl)
  · have large : (2 : ℚ) ^ (e + 52) ≤ q := by
      rcases fine with large | least
      · exact large
      · omega
    have edge : (2 : ℚ) ^ (e + 52) = ((2 ^ 52 : Int) : ℚ) * 2 ^ e := by
      rw [add_comm, zpow_add₀ two_ne_zero]
      norm_num
    have nearer : |(m : ℚ) * 2 ^ e - q| < |w - q| := by
      have bound := mul_le_mul_of_nonneg_right (near.nearest (2 ^ 52)) unit.le
      rw [← apart_scaled, ← apart_scaled, ← edge] at bound
      apply bound.trans_lt
      rw [abs_of_nonpos (by linarith), abs_of_nonpos (by linarith)]
      linarith
    exact ⟨nearer.le, fun tie => absurd tie nearer.ne'⟩

theorem ofRatio_eq (some : num ≠ 0) : ofRatio false num den =
    if rounded num den (exponentFor num den) = significandBound then
      if maxExponent < exponentFor num den + 1 then infinite false
      else finite false (significandBound / 2) (exponentFor num den + 1)
    else if maxExponent < exponentFor num den then infinite false
    else finite false (rounded num den (exponentFor num den)) (exponentFor num den) := by
  by_cases carry : rounded num den (exponentFor num den) = significandBound
  · rw [if_pos carry]
    rw [rounded] at carry
    simp only [ofRatio, if_neg some, carry, if_true]
  · rw [if_neg carry]
    rw [rounded] at carry ⊢
    simp only [ofRatio, if_neg some, if_neg carry]

theorem significand_finite (negative : Bool) (m : Nat) (e : Int) :
    (finite negative m e).significand = m := rfl

theorem half_eq : significandBound / 2 = 2 ^ 51 + 2 ^ 51 := by
  decide

theorem zero_isRounded : IsRounded 0 (finite false 0 minExponent) 0 where
  canonical := ⟨by decide, le_refl _, by decide, .inr rfl⟩
  value := by simp [value?]
  nearest y w canonical value := by simp
  even y w canonical value tie other := by
    rw [sub_zero, sub_zero, abs_zero, abs_eq_zero] at tie
    exact absurd tie other

theorem significand_bounds {m : Nat} (near : IsNearestWhole (q / 2 ^ e) m)
    (most : q < 2 ^ (e + 53)) (fine : (2 : ℚ) ^ (e + 52) ≤ q ∨ e = minExponent) :
    m ≤ 2 ^ 53 ∧ (2 ^ 52 ≤ m ∨ e = minExponent) := by
  have unit := pow_pos' e
  constructor
  · apply near.le
    rw [div_le_iff₀ unit]
    rw [add_comm, zpow_add₀ two_ne_zero] at most
    exact_mod_cast most.le
  · rcases fine with large | small
    · left
      apply near.ge
      rw [le_div_iff₀ unit]
      rw [add_comm, zpow_add₀ two_ne_zero] at large
      exact_mod_cast large
    · exact .inr small

theorem exponent_lt_max (fine : (2 : ℚ) ^ (e + 52) ≤ q ∨ e = minExponent)
    (fits : q < 2 ^ (1023 : Int)) : e + 1 ≤ maxExponent := by
  rcases fine with large | rfl
  · have power := large.trans_lt fits
    rw [zpow_lt_zpow_iff_right₀ one_lt_two] at power
    change e + 1 ≤ 971
    omega
  · decide

/-- A quotient below 2 ^ 1023 is rounded to the nearest number. -/
theorem ofRatio_isRounded (num : Nat) (den_pos : 0 < den)
    (fits : (num : ℚ) / den < 2 ^ (1023 : Int)) :
    ∃ m e, ofRatio false num den = finite false m e ∧
      IsRounded (num / den) (finite false m e) (m * 2 ^ e) := by
  by_cases zero : num = 0
  · subst zero
    refine ⟨0, minExponent, rfl, ?_⟩
    rw [Nat.cast_zero, zero_div, zero_mul]
    exact zero_isRounded
  obtain ⟨least, most, fine⟩ := exponentFor_spec (Nat.pos_of_ne_zero zero) den_pos
  have near := rounded_isNearest num den_pos (exponentFor num den)
  rw [ofRatio_eq zero]
  generalize (num : ℚ) / den = q at fits most fine near
  generalize exponentFor num den = e at least most fine near
  generalize rounded num den e = m at near
  obtain ⟨m_le, full⟩ := significand_bounds near most fine
  have e_le := exponent_lt_max fine fits
  split
  · rename_i carry
    rw [if_neg (by omega)]
    have same : ((significandBound / 2 : Nat) : ℚ) * 2 ^ (e + 1) = m * 2 ^ e := by
      rw [carry, zpow_add₀ two_ne_zero]
      norm_num [significandBound]
      ring
    refine ⟨significandBound / 2, e + 1, rfl, ?_⟩
    rw [same]
    refine ⟨⟨by decide, by omega, e_le, .inl (le_refl _)⟩,
      by simp only [value?, Bool.false_eq_true, if_false, same],
      fun y w canonical value => ?_, fun y w canonical value tie other => ?_⟩
    · exact (nearest_of_grid near fine canonical value).1
    · rw [significand_finite, half_eq]
      exact ⟨_, rfl⟩
  · rename_i no_carry
    rw [if_neg (by omega)]
    refine ⟨m, e, rfl, ⟨lt_of_le_of_ne m_le no_carry, least, by omega, full⟩, rfl,
      fun y w canonical value => ?_, fun y w canonical value => ?_⟩
    · exact (nearest_of_grid near fine canonical value).1
    · exact (nearest_of_grid near fine canonical value).2

end

section

variable {exact exact' v v' w : ℚ} {x x' y : Binary64}

theorem IsRounded.le (rounded : IsRounded exact x v) (canonical : y.IsCanonical)
    (value : y.value? = some w) (least : exact ≤ w) : v ≤ w := by
  by_contra beyond
  have bound := rounded.nearest y w canonical value
  rw [abs_of_nonneg (by linarith), abs_of_nonneg (by linarith)] at bound
  linarith

theorem IsRounded.ge (rounded : IsRounded exact x v) (canonical : y.IsCanonical)
    (value : y.value? = some w) (most : w ≤ exact) : w ≤ v := by
  by_contra under
  have bound := rounded.nearest y w canonical value
  rw [abs_of_nonpos (by linarith), abs_of_nonpos (by linarith)] at bound
  linarith

theorem IsRounded.eq (rounded : IsRounded exact x v) (canonical : y.IsCanonical)
    (value : y.value? = some exact) : v = exact :=
  le_antisymm (rounded.le canonical value le_rfl) (rounded.ge canonical value le_rfl)

theorem IsRounded.mono (rounded : IsRounded exact x v) (rounded' : IsRounded exact' x' v')
    (less : exact < exact') : v ≤ v' := by
  by_contra beyond
  have first := rounded.nearest x' v' rounded'.canonical rounded'.value
  have second := rounded'.nearest x v rounded.canonical rounded.value
  -- The middle between the two results would not be above the lesser number nor below the greater.
  rw [← sq_le_sq] at first second
  nlinarith

theorem exists_canonical {k : Nat} {e : Int} (k_lt : k < 2 ^ 53) (least : minExponent + 52 ≤ e)
    (most : e ≤ maxExponent) : ∃ y, IsCanonical y ∧ y.value? = some ((k : ℚ) * 2 ^ e) := by
  by_cases zero : k = 0
  · exact ⟨_, zero_isRounded.canonical, by simp [value?, zero]⟩
  have log_lt : k.log2 < 53 := (Nat.log2_lt zero).mpr k_lt
  have low : 2 ^ 52 ≤ k * 2 ^ (52 - k.log2) := by
    calc 2 ^ 52 = 2 ^ k.log2 * 2 ^ (52 - k.log2) := by
          rw [← Nat.pow_add]
          congr 1
          omega
      _ ≤ k * 2 ^ (52 - k.log2) := Nat.mul_le_mul_right _ (Nat.log2_self_le zero)
  have high : k * 2 ^ (52 - k.log2) < 2 ^ 53 := by
    calc k * 2 ^ (52 - k.log2) < 2 ^ (k.log2 + 1) * 2 ^ (52 - k.log2) :=
          Nat.mul_lt_mul_of_pos_right Nat.lt_log2_self (Nat.two_pow_pos _)
      _ = 2 ^ 53 := by
        rw [← Nat.pow_add]
        congr 1
        omega
  refine ⟨finite false (k * 2 ^ (52 - k.log2)) (e - (52 - k.log2 : Nat)),
    ⟨high, by omega, by omega, .inl low⟩, ?_⟩
  have unit : (2 : ℚ) ^ (52 - k.log2) ≠ 0 := pow_ne_zero _ two_ne_zero
  rw [value?, zpow_sub₀ two_ne_zero, zpow_natCast]
  push_cast
  apply congrArg some
  rw [mul_assoc, mul_div_cancel₀ _ unit]

theorem ofNat_isRounded {n : Nat} (fits : (n : ℚ) < 2 ^ (1023 : Int)) :
    ∃ m e, ofNat n = finite false m e ∧ IsRounded n (finite false m e) (m * 2 ^ e) := by
  have rounded := ofRatio_isRounded n Nat.one_pos (by rwa [Nat.cast_one, div_one])
  rwa [Nat.cast_one, div_one] at rounded

/-- A product of two numbers is rounded once more. -/
theorem mul_isRounded {m n : Nat} {e f : Int}
    (fits : (m : ℚ) * 2 ^ e * (n * 2 ^ f) < 2 ^ (1023 : Int)) :
    ∃ w, IsRounded (m * 2 ^ e * (n * 2 ^ f)) (mul (finite false m e) (finite false n f)) w := by
  have product : (m : ℚ) * 2 ^ e * (n * 2 ^ f) = (m * n : Nat) * 2 ^ (e + f) := by
    rw [zpow_add₀ two_ne_zero]
    push_cast
    ring
  rw [product] at fits ⊢
  rw [mul]
  split
  · rename_i nonneg
    have same : ((m * n * Nat.pow 2 (e + f).toNat : Nat) : ℚ) / (1 : Nat) =
        (m * n : Nat) * 2 ^ (e + f) := by
      rw [Nat.cast_mul (m * n), cast_pow nonneg, Nat.cast_one, div_one]
    obtain ⟨k, g, equal, rounded⟩ := ofRatio_isRounded _ Nat.one_pos (same ▸ fits)
    rw [same, ← equal] at rounded
    exact ⟨_, rounded⟩
  · rename_i neg
    have same : ((m * n : Nat) : ℚ) / (Nat.pow 2 (-(e + f)).toNat : Nat) =
        (m * n : Nat) * 2 ^ (e + f) := by
      rw [cast_pow (by omega), zpow_neg, div_inv_eq_mul]
    have pos : 0 < Nat.pow 2 (-(e + f)).toNat := Nat.two_pow_pos _
    obtain ⟨k, g, equal, rounded⟩ := ofRatio_isRounded (m * n) pos (same ▸ fits)
    rw [same, ← equal] at rounded
    exact ⟨_, rounded⟩

end

end MountProbe.Binary64
