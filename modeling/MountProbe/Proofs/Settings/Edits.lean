import Mathlib.Tactic.LinearCombination
import MountProbe.Proofs.Settings.Fingerprint

namespace MountProbe

namespace Settings

section

variable {h k x y : UInt64} {a b : UInt8} {as bs : Bytes}

def hashPrime : UInt64 := 0x100000001b3

def hashPrimeInverse : UInt64 := 0xce965057aff6957b

theorem mixByte_eq (h : UInt64) (b : UInt8) : mixByte h b = (h ^^^ b.toUInt64) * hashPrime := rfl

theorem mul_hashPrime_injective (same : x * hashPrime = y * hashPrime) : x = y := by
  have undone := congrArg (· * hashPrimeInverse) same
  have unit : hashPrime * hashPrimeInverse = 1 := by decide
  simpa only [UInt64.mul_assoc, unit, UInt64.mul_one] using undone

theorem mixByte_injective (b : UInt8) : Function.Injective (mixByte · b) := by
  intro h k same
  exact (UInt64.xor_left_inj b.toUInt64).mp (mul_hashPrime_injective same)

theorem mixByte_bijective (b : UInt8) : Function.Bijective (mixByte · b) := by
  refine ⟨mixByte_injective b, fun k => ⟨k * hashPrimeInverse ^^^ b.toUInt64, ?_⟩⟩
  have unit : hashPrimeInverse * hashPrime = 1 := by decide
  dsimp only
  rw [mixByte_eq, UInt64.xor_assoc, UInt64.xor_self, UInt64.xor_zero, UInt64.mul_assoc, unit,
    UInt64.mul_one]

theorem mixByte_byte_injective (same : mixByte h a = mixByte h b) : a = b :=
  UInt8.toUInt64_inj.mp ((UInt64.xor_right_inj h).mp (mul_hashPrime_injective same))

theorem foldl_mixByte_injective (bs : Bytes) : Function.Injective (bs.foldl mixByte) := by
  induction bs with
  | nil => exact fun _ _ same => same
  | cons b bs ih => exact fun _ _ same => mixByte_injective b (ih same)

theorem xor_byte_within (x : UInt64) (b : UInt8) :
    |((x ^^^ b.toUInt64).toNat : ℤ) - x.toNat| ≤ 255 := by
  have high : (x ^^^ b.toUInt64).toNat / 2 ^ 8 = x.toNat / 2 ^ 8 := by
    have b_lt := b.toNat_lt
    rw [UInt64.toNat_xor, UInt8.toNat_toUInt64, Nat.xor_div_two_pow, Nat.div_eq_of_lt b_lt,
      Nat.xor_zero]
  rw [abs_le]
  omega

theorem mix_apart (x y : UInt64) (a b : UInt8) : ∃ e k : ℤ, |e| ≤ 510 ∧
    (((x * hashPrime) ^^^ a.toUInt64).toNat : ℤ) - ((y * hashPrime) ^^^ b.toUInt64).toNat =
      1099511628211 * (x.toNat - y.toNat) + e - 2 ^ 64 * k := by
  have first := abs_le.mp (xor_byte_within (x * hashPrime) a)
  have second := abs_le.mp (xor_byte_within (y * hashPrime) b)
  have moved : ∀ z : UInt64, ((z * hashPrime).toNat : ℤ) =
      1099511628211 * z.toNat - 2 ^ 64 * (1099511628211 * z.toNat / 2 ^ 64 : ℤ) := by
    intro z
    have number : hashPrime.toNat = 1099511628211 := rfl
    rw [UInt64.toNat_mul, number, Nat.mul_comm]
    push_cast
    exact Int.emod_def _ _
  have x_moved := moved x
  have y_moved := moved y
  refine ⟨((x * hashPrime ^^^ a.toUInt64).toNat - (x * hashPrime).toNat : ℤ) -
    ((y * hashPrime ^^^ b.toUInt64).toNat - (y * hashPrime).toNat),
    1099511628211 * x.toNat / 2 ^ 64 - 1099511628211 * y.toNat / 2 ^ 64, ?_, ?_⟩
  · rw [abs_le]
    omega
  · linear_combination x_moved - y_moved

theorem eq_zero_of_mixed {d e₁ e₂ e₃ k : ℤ} (d_small : |d| ≤ 510) (e₁_small : |e₁| ≤ 510)
    (e₂_small : |e₂| ≤ 510) (e₃_small : |e₃| ≤ 510)
    (mixed : 1099511628211 * (1099511628211 * (1099511628211 * d + e₁) + e₂) + e₃ = 2 ^ 64 * k) :
    d = 0 := by
  rw [abs_le] at d_small e₁_small e₂_small e₃_small
  -- The prime is 2 ^ 40 + 435, and the powers of 435 are small beside 2 ^ 40.
  obtain ⟨j, parts⟩ : ∃ j, 2 ^ 40 * (567675 * d + 870 * e₁ + e₂ - 2 ^ 24 * j) +
      (435 * (435 * (435 * d + e₁) + e₂) + e₃) = 0 :=
    ⟨k - (72057594123452416 * d + 65536 * e₁), by linear_combination mixed⟩
  have low : 435 * (435 * (435 * d + e₁) + e₂) + e₃ = 0 := by omega
  have high : 567675 * d + 870 * e₁ + e₂ = 2 ^ 24 * j := by omega
  generalize third : 435 * (435 * d + e₁) + e₂ = u at low
  have u_small : -1 ≤ u ∧ u ≤ 1 := by omega
  generalize second : 435 * d + e₁ = w at third
  have w_small : -1 ≤ w ∧ w ≤ 1 := by omega
  have d_least : -1 ≤ d ∧ d ≤ 1 := by omega
  have whole : 189225 * d + 435 * w + u = 2 ^ 24 * j := by
    linear_combination high - third - 870 * second
  have none : j = 0 := by omega
  omega

theorem first_eq_of_four {a₀ a₁ a₂ a₃ b₀ b₁ b₂ b₃ : UInt8}
    (same : [a₀, a₁, a₂, a₃].foldl mixByte h = [b₀, b₁, b₂, b₃].foldl mixByte h) : a₀ = b₀ := by
  simp only [List.foldl_cons, List.foldl_nil, mixByte_eq] at same
  have ends := mul_hashPrime_injective same
  have a_within := abs_le.mp (xor_byte_within h a₀)
  have b_within := abs_le.mp (xor_byte_within h b₀)
  obtain ⟨e₁, k₁, e₁_small, apart₁⟩ := mix_apart (h ^^^ a₀.toUInt64) (h ^^^ b₀.toUInt64) a₁ b₁
  generalize (h ^^^ a₀.toUInt64) * hashPrime ^^^ a₁.toUInt64 = x₁ at ends apart₁
  generalize (h ^^^ b₀.toUInt64) * hashPrime ^^^ b₁.toUInt64 = y₁ at ends apart₁
  obtain ⟨e₂, k₂, e₂_small, apart₂⟩ := mix_apart x₁ y₁ a₂ b₂
  generalize x₁ * hashPrime ^^^ a₂.toUInt64 = x₂ at ends apart₂
  generalize y₁ * hashPrime ^^^ b₂.toUInt64 = y₂ at ends apart₂
  obtain ⟨e₃, k₃, e₃_small, apart₃⟩ := mix_apart x₂ y₂ a₃ b₃
  rw [ends, sub_self] at apart₃
  have start : ((h ^^^ a₀.toUInt64).toNat : ℤ) - (h ^^^ b₀.toUInt64).toNat = 0 := by
    apply eq_zero_of_mixed (k := k₃ + 1099511628211 * k₂ + 1099511628211 ^ 2 * k₁) _ e₁_small
      e₂_small e₃_small
    · linear_combination -apart₃ - 1099511628211 * apart₂ - 1099511628211 ^ 2 * apart₁
    · rw [abs_le]
      omega
  have words : h ^^^ a₀.toUInt64 = h ^^^ b₀.toUInt64 := UInt64.toNat_inj.mp (by omega)
  exact UInt8.toUInt64_inj.mp ((UInt64.xor_right_inj h).mp words)

theorem eq_of_foldl_mixByte (level : as.length = bs.length) (short : as.length ≤ 4)
    (same : as.foldl mixByte h = bs.foldl mixByte h) : as = bs := by
  induction as generalizing bs h with
  | nil => exact (List.length_eq_zero_iff.mp level.symm).symm
  | cons a as ih =>
    obtain ⟨b, bs, rfl⟩ := List.exists_cons_of_length_eq_add_one level.symm
    have first : a = b := by
      -- The same zeros behind both make them four bytes long and move both hashes alike.
      let zeros : Bytes := List.replicate (3 - as.length) 0
      have padded :
          (a :: (as ++ zeros)).foldl mixByte h = (b :: (bs ++ zeros)).foldl mixByte h := by
        rw [← List.cons_append, ← List.cons_append, List.foldl_append, List.foldl_append, same]
      simp only [List.length_cons, Nat.add_right_cancel_iff] at level short
      have as_three : (as ++ zeros).length = 3 := by
        simp only [zeros, List.length_append, List.length_replicate]
        omega
      have bs_three : (bs ++ zeros).length = 3 := by
        rwa [List.length_append, ← level, ← List.length_append]
      obtain ⟨a₁, a₂, a₃, a_rest⟩ := List.length_eq_three.mp as_three
      obtain ⟨b₁, b₂, b₃, b_rest⟩ := List.length_eq_three.mp bs_three
      rw [a_rest, b_rest] at padded
      exact first_eq_of_four padded
    subst first
    rw [ih (by simpa using level) (Nat.le_of_succ_le short) same]

theorem fnv1a_append (before after : Bytes) :
    fnv1a (before ++ after) = after.foldl mixByte (fnv1a before) := by
  rw [fnv1a, List.foldl_append, fnv1a]

end

/-- Two byte strings of one length that differ in one byte. -/
def OneByteApart (xs ys : Bytes) : Prop :=
  ∃ before after a b, a ≠ b ∧ xs = before ++ a :: after ∧ ys = before ++ b :: after

/-- Two texts of which one has a character for another of as many bytes. -/
def OneCharApart (cs ds : List Char) : Prop :=
  ∃ before after c d, c ≠ d ∧ c.utf8Size = d.utf8Size ∧ cs = before ++ c :: after ∧
    ds = before ++ d :: after

theorem fnv1a_ne_of_byte {xs ys : Bytes} (apart : OneByteApart xs ys) : fnv1a xs ≠ fnv1a ys := by
  obtain ⟨before, after, a, b, other, rfl, rfl⟩ := apart
  intro same
  rw [fnv1a_append, fnv1a_append, List.foldl_cons, List.foldl_cons] at same
  exact other (mixByte_byte_injective (foldl_mixByte_injective after same))

theorem fnv1a_ne_of_char {cs ds : List Char} (apart : OneCharApart cs ds) :
    fnv1a (Text.utf8 cs) ≠ fnv1a (Text.utf8 ds) := by
  obtain ⟨before, after, c, d, other, size, rfl, rfl⟩ := apart
  intro same
  simp only [Text.utf8_append, Text.utf8_cons, fnv1a_append, List.foldl_append] at same
  have encoded := eq_of_foldl_mixByte (by simp [size]) (by simp [Char.utf8Size_le_four])
    (foldl_mixByte_injective _ same)
  apply other
  have chars : [c] = [d] := Text.utf8_injective (by simpa using encoded)
  exact List.singleton_inj.mp chars

/-- The text whose hash is the fingerprint. -/
def canonical (s : Settings) : Except Failure (List Char) :=
  s.toJson.map Json.render

theorem canonical_eq_ok {s : Settings} {cs : List Char} :
    s.canonical = .ok cs ↔ ∃ v, s.toJson = .ok v ∧ v.render = cs := by
  rw [canonical]
  cases s.toJson <;> simp [Except.map]

theorem fingerprint_of_canonical {s : Settings} {cs : List Char} (written : s.canonical = .ok cs) :
    s.fingerprint = .ok (Text.hex16 (fnv1a (Text.utf8 cs)).toNat) := by
  obtain ⟨v, json, rfl⟩ := canonical_eq_ok.mp written
  exact bind_eq_ok.mpr ⟨v, json, rfl⟩

/-- An edit of one byte, or of one character for another of as many bytes. -/
def OneEdit (cs ds : List Char) : Prop :=
  OneByteApart (Text.utf8 cs) (Text.utf8 ds) ∨ OneCharApart cs ds

theorem fingerprint_ne_of_edit {s t : Settings} {cs ds : List Char} (first : s.canonical = .ok cs)
    (second : t.canonical = .ok ds) (edit : OneEdit cs ds) : s.fingerprint ≠ t.fingerprint := by
  have apart : fnv1a (Text.utf8 cs) ≠ fnv1a (Text.utf8 ds) :=
    edit.elim fnv1a_ne_of_byte fnv1a_ne_of_char
  rw [fingerprint_of_canonical first, fingerprint_of_canonical second]
  intro same
  exact apart (UInt64.toNat_inj.mp (Text.hex16_injective (Except.ok.inj same)))

end Settings

end MountProbe
