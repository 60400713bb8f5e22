import MountProbe.Proofs.Binary64.Rounding
import MountProbe.Stat.Record

/-! The bytes that stand for a count of blocks: the exact product of two 64-bit numbers is rounded
once. -/
namespace MountProbe.Stat

open Binary64

variable {a b n k j count blockSize : Nat}

theorem fits_of_lt (a_lt : a < 2 ^ 64) : (a : ℚ) < 2 ^ (1023 : Int) := by
  have small : (a : ℚ) < 2 ^ (64 : Int) := by exact_mod_cast a_lt
  apply small.trans_le
  exact zpow_le_zpow_right₀ one_le_two (by decide)

theorem product_fits (a_lt : a < 2 ^ 64) (b_lt : b < 2 ^ 64) :
    ((a * b : Nat) : ℚ) < 2 ^ (1023 : Int) := by
  have small : a * b < 2 ^ 64 * 2 ^ 64 := Nat.mul_lt_mul'' a_lt b_lt
  have small' : ((a * b : Nat) : ℚ) < 2 ^ (128 : Int) := by exact_mod_cast small
  apply small'.trans_le
  exact zpow_le_zpow_right₀ one_le_two (by decide)

theorem scaledBytes_isRounded (count_lt : count < 2 ^ 64) (size_lt : blockSize < 2 ^ 64) :
    ∃ v, IsRounded (count * blockSize : Nat) (scaledBytes count blockSize) v := by
  obtain ⟨m, e, equal, rounded⟩ := ofNat_isRounded (product_fits count_lt size_lt)
  rw [scaledBytes, equal]
  exact ⟨_, rounded⟩

theorem ofNat_of_lt (a_lt : a < 2 ^ 64) :
    ∃ m e, ofNat a = finite false m e ∧ (m : ℚ) * 2 ^ e ≤ 2 ^ (64 : Int) := by
  obtain ⟨m, e, equal, rounded⟩ := ofNat_isRounded (fits_of_lt a_lt)
  obtain ⟨y, canonical, value⟩ := exists_canonical (show 1 < 2 ^ 53 by decide)
    (show minExponent + 52 ≤ 64 by decide) (by decide)
  rw [Nat.cast_one, one_mul] at value
  refine ⟨m, e, equal, rounded.le canonical value ?_⟩
  exact_mod_cast a_lt.le

theorem product_of_rounded (count_lt : count < 2 ^ 64) (size_lt : blockSize < 2 ^ 64) :
    ∃ w, IsCanonical ((ofNat count).mul (ofNat blockSize)) ∧
      ((ofNat count).mul (ofNat blockSize)).value? = some w := by
  obtain ⟨m, e, first, m_le⟩ := ofNat_of_lt count_lt
  obtain ⟨n, f, second, n_le⟩ := ofNat_of_lt size_lt
  have fits : (m : ℚ) * 2 ^ e * (n * 2 ^ f) < 2 ^ (1023 : Int) := by
    calc (m : ℚ) * 2 ^ e * (n * 2 ^ f) ≤ 2 ^ (64 : Int) * 2 ^ (64 : Int) :=
          mul_le_mul m_le n_le (mul_nonneg (Nat.cast_nonneg n) (pow_pos' f).le) (pow_pos' _).le
      _ < 2 ^ (1023 : Int) := by
        rw [← zpow_add₀ two_ne_zero]
        exact zpow_lt_zpow_right₀ one_lt_two (by decide)
  obtain ⟨w, rounded⟩ := mul_isRounded fits
  rw [first, second]
  exact ⟨w, rounded.canonical, rounded.value⟩

theorem exists_of_few_bits (n_lt : n < 2 ^ 128) (split : n = k * 2 ^ j) (few : k < 2 ^ 53) :
    ∃ y, IsCanonical y ∧ y.value? = some (n : ℚ) := by
  by_cases zero : n = 0
  · exact ⟨_, zero_isRounded.canonical, by rw [zero, Nat.cast_zero]; exact zero_isRounded.value⟩
  have power : 2 ^ j ≤ n := by
    rw [split]
    apply Nat.le_mul_of_pos_left
    apply Nat.pos_of_ne_zero
    rintro rfl
    exact zero (by rw [split, Nat.zero_mul])
  have j_lt : j < 128 := (Nat.pow_lt_pow_iff_right Nat.one_lt_two).mp (power.trans_lt n_lt)
  obtain ⟨y, canonical, value⟩ := exists_canonical (e := j) few
    (by simp only [minExponent]; omega) (by simp only [maxExponent]; omega)
  refine ⟨y, canonical, ?_⟩
  rw [value, split, zpow_natCast]
  push_cast
  rfl

theorem scaledBytes_mono {count' blockSize' : Nat} {v v' : ℚ}
    (rounded : IsRounded (count * blockSize : Nat) (scaledBytes count blockSize) v)
    (rounded' : IsRounded (count' * blockSize' : Nat) (scaledBytes count' blockSize') v')
    (count_le : count ≤ count') (size_le : blockSize ≤ blockSize') : v ≤ v' := by
  rcases (Nat.mul_le_mul count_le size_le).eq_or_lt with same | less
  · have equal : scaledBytes count blockSize = scaledBytes count' blockSize' := by
      rw [scaledBytes, scaledBytes, same]
    have values := rounded.value
    rw [equal, rounded'.value] at values
    exact (Option.some.inj values).ge
  · exact rounded.mono rounded' (by exact_mod_cast less)

/-- The bytes of a count of blocks are the number nearest to the exact product. They are exact where
the product has at most 53 significant bits, grow with both factors, and keep the order of the
counts in a record. -/
theorem bytes_rounded_once (count_lt : count < 2 ^ 64) (size_lt : blockSize < 2 ^ 64) :
    ∃ v, IsRounded (count * blockSize : Nat) (scaledBytes count blockSize) v ∧
      (∃ w, ((ofNat count).mul (ofNat blockSize)).value? = some w ∧
        |v - (count * blockSize : Nat)| ≤ |w - (count * blockSize : Nat)|) ∧
      (∀ k j, count * blockSize = k * 2 ^ j → k < 2 ^ 53 → v = (count * blockSize : Nat)) ∧
      (∀ more, count ≤ more → more < 2 ^ 64 →
        ∃ w, (scaledBytes more blockSize).value? = some w ∧ v ≤ w) ∧
      (∀ more, blockSize ≤ more → more < 2 ^ 64 →
        ∃ w, (scaledBytes count more).value? = some w ∧ v ≤ w) ∧
      ∀ l c, c.blocks = count → c.blockSize = blockSize → c.blocksAvailable ≤ c.blocksFree →
        c.blocksFree ≤ c.blocks → ∃ available free,
          (Record.ofCounts l c).available.value? = some available ∧
          (Record.ofCounts l c).free.value? = some free ∧
          (Record.ofCounts l c).size.value? = some v ∧ available ≤ free ∧ free ≤ v := by
  obtain ⟨v, rounded⟩ := scaledBytes_isRounded count_lt size_lt
  refine ⟨v, rounded, ?_, ?_, ?_, ?_, ?_⟩
  · obtain ⟨w, canonical, value⟩ := product_of_rounded count_lt size_lt
    exact ⟨w, value, rounded.nearest _ _ canonical value⟩
  · intro k j split few
    have small : count * blockSize < 2 ^ 64 * 2 ^ 64 := Nat.mul_lt_mul'' count_lt size_lt
    rw [← Nat.pow_add] at small
    obtain ⟨y, canonical, value⟩ := exists_of_few_bits small split few
    exact rounded.eq canonical value
  · intro more least more_lt
    obtain ⟨w, rounded'⟩ := scaledBytes_isRounded more_lt size_lt
    exact ⟨w, rounded'.value, scaledBytes_mono rounded rounded' least le_rfl⟩
  · intro more least more_lt
    obtain ⟨w, rounded'⟩ := scaledBytes_isRounded count_lt more_lt
    exact ⟨w, rounded'.value, scaledBytes_mono rounded rounded' le_rfl least⟩
  · rintro l c rfl rfl available_le free_le
    have free_lt := free_le.trans_lt count_lt
    obtain ⟨available, rounded₁⟩ := scaledBytes_isRounded (available_le.trans_lt free_lt) size_lt
    obtain ⟨free, rounded₂⟩ := scaledBytes_isRounded free_lt size_lt
    exact ⟨available, free, rounded₁.value, rounded₂.value, rounded.value,
      scaledBytes_mono rounded₁ rounded₂ available_le le_rfl,
      scaledBytes_mono rounded₂ rounded free_le le_rfl⟩

/-- Three blocks of 2 ^ 53 + 1 bytes: the size of a block cannot be written, and the product of what
it is rounded to is four bytes away from the number that stands for the exact product. -/
theorem bytes_rounded_once_of_three :
    scaledBytes 3 (2 ^ 53 + 1) = finite false (3 * 2 ^ 51 + 1) 2 ∧
      (ofNat 3).mul (ofNat (2 ^ 53 + 1)) = finite false (3 * 2 ^ 51) 2 ∧
      ∃ v, IsRounded (3 * (2 ^ 53 + 1) : Nat) (scaledBytes 3 (2 ^ 53 + 1)) v := by
  refine ⟨by decide +kernel, by decide +kernel, ?_⟩
  obtain ⟨v, rounded, -⟩ := bytes_rounded_once (show 3 < 2 ^ 64 by decide)
    (show 2 ^ 53 + 1 < 2 ^ 64 by decide)
  exact ⟨v, rounded⟩

end MountProbe.Stat
