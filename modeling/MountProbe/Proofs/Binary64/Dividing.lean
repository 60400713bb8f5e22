import Mathlib.Algebra.Order.Round
import Mathlib.Data.Rat.Floor
import MountProbe.Binary64.Decimal
import MountProbe.Proofs.Binary64.Rounding

namespace MountProbe.Binary64

structure Stands (x : Binary64) (v : ℚ) : Prop where
  canonical : x.IsCanonical
  form : ∃ m e, x = finite false m e ∧ v = m * 2 ^ e

section

variable {x y : Binary64} {v w : ℚ} {m n : Nat} {e f : Int}

theorem Stands.value (stands : Stands x v) : x.value? = some v := by
  obtain ⟨-, m, e, rfl, rfl⟩ := stands
  rfl

theorem units_value (negative : Bool) (m : Nat) {unit : Int} (fine : unit ≤ e) :
    (units negative m e unit : ℚ) * 2 ^ unit =
      if negative then -((m : ℚ) * 2 ^ e) else (m : ℚ) * 2 ^ e := by
  have magnitude : ((m * Nat.pow 2 (e - unit).toNat : Int) : ℚ) * 2 ^ unit = m * 2 ^ e := by
    rw [Int.cast_mul, Int.cast_natCast, Int.cast_natCast, cast_pow (by omega), mul_assoc,
      ← zpow_add₀ two_ne_zero, sub_add_cancel]
  cases negative with
  | false => exact magnitude
  | true =>
    rw [units, if_pos rfl, if_pos rfl, Int.cast_neg, neg_mul, magnitude]

theorem lt_iff (first : x.value? = some v) (second : y.value? = some w) :
    x.lt y = true ↔ v < w := by
  cases x with
  | nan => cases first
  | infinite negative => cases first
  | finite a m e =>
    cases y with
    | nan => cases second
    | infinite negative => cases second
    | finite b n f =>
      cases first
      cases second
      rw [lt, decide_eq_true_eq, ← units_value a m (min_le_left e f),
        ← units_value b n (min_le_right e f), mul_lt_mul_iff_left₀ (pow_pos' _), Int.cast_lt]

theorem div_isRounded (nonzero : n ≠ 0)
    (fits : (m : ℚ) * 2 ^ e / (n * 2 ^ f) < 2 ^ (1023 : Int)) :
    ∃ k g, div (finite false m e) (finite false n f) = finite false k g ∧
      IsRounded (m * 2 ^ e / (n * 2 ^ f)) (finite false k g) (k * 2 ^ g) := by
  have quotient : (m : ℚ) * 2 ^ e / (n * 2 ^ f) = m / n * 2 ^ (e - f) := by
    rw [zpow_sub₀ two_ne_zero, mul_div_mul_comm]
  rw [quotient] at fits ⊢
  rw [div, if_neg nonzero]
  split
  · rename_i nonneg
    have same : ((m * Nat.pow 2 (e - f).toNat : Nat) : ℚ) / n = m / n * 2 ^ (e - f) := by
      rw [Nat.cast_mul, cast_pow nonneg, mul_div_right_comm]
    have rounded := ofRatio_isRounded _ (Nat.pos_of_ne_zero nonzero) (same ▸ fits)
    rwa [same] at rounded
  · rename_i neg
    have same : (m : ℚ) / (n * Nat.pow 2 (f - e).toNat : Nat) = m / n * 2 ^ (e - f) := by
      rw [Nat.cast_mul, cast_pow (by omega), ← neg_sub f e, zpow_neg, ← div_div,
        div_eq_mul_inv _ (2 ^ (f - e) : ℚ)]
    have pos : 0 < n * Nat.pow 2 (f - e).toNat :=
      Nat.mul_pos (Nat.pos_of_ne_zero nonzero) (Nat.two_pow_pos _)
    have rounded := ofRatio_isRounded m pos (same ▸ fits)
    rwa [same] at rounded

theorem div_stands (first : Stands x v) (second : Stands y w) (nonzero : w ≠ 0)
    (fits : v / w < 2 ^ (1023 : Int)) {z : Binary64} (canonical : z.IsCanonical)
    (value : z.value? = some (v / w)) : Stands (x.div y) (v / w) := by
  obtain ⟨-, m, e, rfl, rfl⟩ := first
  obtain ⟨-, n, f, rfl, rfl⟩ := second
  have divisor : n ≠ 0 := by
    rintro rfl
    exact nonzero (by rw [Nat.cast_zero, zero_mul])
  obtain ⟨k, g, equal, rounded⟩ := div_isRounded divisor fits
  rw [equal]
  exact ⟨rounded.canonical, k, g, rfl, (rounded.eq canonical value).symm⟩

theorem IsNearestWhole.within (near : IsNearestWhole v m) : |(m : ℚ) - v| ≤ 1 / 2 := by
  apply (near.nearest (round v)).trans
  rw [abs_sub_comm]
  exact abs_sub_round v

theorem IsNearestWhole.lt_iff (near : IsNearestWhole v m) (even : Even n) :
    m < n ↔ v < n - 1 / 2 := by
  obtain ⟨above, below⟩ := abs_le.mp near.within
  constructor
  · intro less
    have next : (m : ℚ) + 1 ≤ n := by exact_mod_cast less
    by_contra least
    have tie : v = n - 1 / 2 := by linarith
    have before : (n : ℚ) = m + 1 := by linarith
    have m_even : Even m := by
      apply near.even n
      · rw [tie, Int.cast_natCast, abs_of_nonneg (by linarith), abs_of_nonpos (by linarith)]
        linarith
      · exact_mod_cast less.ne'
    have odd : n = m + 1 := by exact_mod_cast before
    exact Nat.even_add_one.mp (odd ▸ even) m_even
  · intro less
    have cast : (m : ℚ) < n := by linarith
    exact_mod_cast cast

/-- Digits with a point before the last few. -/
def pointed (places n : Nat) : List Char :=
  let rest := decimalDigits (n % Nat.pow 10 places)
  decimalDigits (n / Nat.pow 10 places) ++
    if places = 0 then [] else '.' :: zeros (places - rest.length) ++ rest

theorem Stands.fixed (stands : Stands x v) (places : Nat) :
    ∃ n, IsNearestWhole (v * 10 ^ places) n ∧
      x.fixed places = String.ofList (pointed places n) := by
  obtain ⟨-, m, e, rfl, rfl⟩ := stands
  have power : ((Nat.pow 10 places : Nat) : ℚ) = 10 ^ places := Nat.cast_pow 10 places
  refine ⟨_, ?_, rfl⟩
  split
  · rename_i nonneg
    have whole : ((m * Nat.pow 2 e.toNat * Nat.pow 10 places : Nat) : ℚ) =
        m * 2 ^ e * 10 ^ places := by
      rw [Nat.cast_mul, Nat.cast_mul, cast_pow nonneg, power]
    have near := isNearestWhole_of_low (a := m * Nat.pow 2 e.toNat * Nat.pow 10 places)
      (le_refl (0 : ℚ)) (.inl (by norm_num))
    rwa [add_zero, whole] at near
  · rename_i neg
    have pos : 0 < Nat.pow 2 (-e).toNat := Nat.two_pow_pos _
    have near := roundQuotient_isNearest (m * Nat.pow 10 places) pos
    have same : ((m * Nat.pow 10 places : Nat) : ℚ) / (Nat.pow 2 (-e).toNat : Nat) =
        m * 2 ^ e * 10 ^ places := by
      rw [cast_pow (by omega), zpow_neg, div_inv_eq_mul, Nat.cast_mul, power, mul_right_comm]
    rwa [same] at near

end

end MountProbe.Binary64
