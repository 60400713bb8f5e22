import MountProbe.Command.Table
import MountProbe.Proofs.Binary64.Dividing
import MountProbe.Proofs.Stat.Counts
import MountProbe.Proofs.Text.Cutting

/-! Sizes in a table, read as a reader of the table does: a number, with a point or not, and a unit.
The number is the nearest one with its places, and the unit is chosen before the number is rounded,
so that just below the next unit a number may be shown as 1024. -/
namespace MountProbe.Command

open Binary64 Stat

/-- A size as it stands in a table: the digits of its number, how many of them are behind the point,
and the place of its unit among all units. -/
structure Shown where
  digits : Nat
  places : Nat
  unit : Nat
deriving DecidableEq, Repr

namespace Shown

def number (s : Shown) : ℚ :=
  s.digits / 10 ^ s.places

/-- What the last digit counts, in its unit. -/
def lastDigit (s : Shown) : ℚ :=
  1 / 10 ^ s.places

def unitBytes (s : Shown) : ℚ :=
  1024 ^ s.unit

/-- The digits of a numeral, and how many of them are behind the point. -/
def numeral? (cs : List Char) : Option (Nat × Nat) :=
  let (whole, part) := (Text.splitFirst ['.'] cs).getD (cs, [])
  if !whole.isEmpty && (whole ++ part).all Char.isDigit then
    some (Text.decimal (whole ++ part), part.length)
  else none

/-- Reads a number and its unit. -/
def read? (text : List Char) : Option Shown := do
  let (numeral, name) ← Text.splitFirst [' '] text
  let (digits, places) ← numeral? numeral
  let unit ← units.idxOf? (String.ofList name)
  return ⟨digits, places, unit⟩

end Shown

section

variable {x y : Binary64} {v : ℚ} {n k : Nat}

theorem isDigit_decimalDigits (n : Nat) : (decimalDigits n).all Char.isDigit = true :=
  List.all_eq_true.mpr fun _ member => Nat.isDigit_of_mem_toDigits (by decide) (by decide) member

theorem not_mem_decimalDigits {c : Char} (mark : c.isDigit = false) (n : Nat) :
    c ∉ decimalDigits n := by
  intro member
  have digit := Nat.isDigit_of_mem_toDigits (by decide) (by decide) member
  rw [mark] at digit
  cases digit

theorem pointed_zero (n : Nat) : pointed 0 n = decimalDigits n := by
  simp [pointed]

theorem length_decimalDigits (digit : n < 10) : (decimalDigits n).length = 1 := by
  rw [decimalDigits, Nat.toDigits_of_lt_base digit, List.length_singleton]

theorem pointed_one (n : Nat) :
    pointed 1 n = decimalDigits (n / 10) ++ '.' :: decimalDigits (n % 10) := by
  simp [pointed, length_decimalDigits (Nat.mod_lt n (show 0 < 10 by decide)), zeros]

theorem decimal_decimalDigits (n : Nat) : Text.decimal (decimalDigits n) = n :=
  Text.decimal_toDigits n

theorem numeral?_pointed {places : Nat} (few : places ≤ 1) (n : Nat) :
    Shown.numeral? (pointed places n) = some (n, places) := by
  have some_digit : ∀ n, (decimalDigits n).isEmpty = false :=
    fun n => List.isEmpty_eq_false_iff.mpr (Text.toDigits_ne_nil n)
  rcases Nat.le_one_iff_eq_zero_or_eq_one.mp few with rfl | rfl
  · have whole : Text.splitFirst ['.'] (decimalDigits n) = none := by
      rw [Text.splitFirst_eq_none, List.singleton_infix_iff]
      exact not_mem_decimalDigits rfl n
    rw [pointed_zero, Shown.numeral?, whole]
    simp [some_digit, isDigit_decimalDigits, decimal_decimalDigits]
  · have cut := Text.splitFirst_at (not_mem_decimalDigits (c := '.') rfl (n / 10))
      (decimalDigits (n % 10))
    have whole : n / 10 * 10 + n % 10 = n := Nat.div_add_mod' n 10
    rw [pointed_one, Shown.numeral?, cut]
    simp [some_digit, isDigit_decimalDigits, Text.decimal_append, decimal_decimalDigits,
      length_decimalDigits (Nat.mod_lt n (show 0 < 10 by decide)), whole]

theorem idxOf?_units : ∀ k < units.length, units.idxOf? (units.getD k "") = some k := by
  decide

theorem read?_pointed {places : Nat} (few : places ≤ 1) (n : Nat) (listed : k < units.length) :
    Shown.read? (pointed places n ++ ' ' :: (units.getD k "").toList) = some ⟨n, places, k⟩ := by
  have apart : ' ' ∉ pointed places n := by
    rcases Nat.le_one_iff_eq_zero_or_eq_one.mp few with rfl | rfl
    · rw [pointed_zero]
      exact not_mem_decimalDigits rfl n
    · have blank := not_mem_decimalDigits (c := ' ') rfl
      simp [pointed_one, blank]
  rw [Shown.read?, Text.splitFirst_at apart]
  simp only [Option.bind_eq_bind, Option.bind_some, numeral?_pointed few, String.ofList_toList,
    idxOf?_units k listed]
  rfl

theorem unitStep_stands : Stands unitStep 1024 := by
  have form : unitStep = finite false (2 ^ 52) (-42) := by decide +kernel
  refine ⟨?_, _, _, form, by norm_num⟩
  rw [form]
  exact ⟨by decide, by decide, by decide, .inl (by decide)⟩

theorem div_unitStep (stands : Stands x v) (large : 1024 ≤ v) :
    Stands (x.div unitStep) (v / 1024) := by
  have whole := stands
  obtain ⟨canonical, m, e, rfl, rfl⟩ := stands
  obtain ⟨m_lt, -, e_le, -⟩ := canonical
  -- A number this large has an exponent from which ten can be taken.
  have e_ge : -43 < e := by
    have power : (2 : ℚ) ^ (10 : Int) < 2 ^ (53 + e) := by
      apply lt_of_le_of_lt _ (scaled_lt m_lt e)
      rwa [show (2 : ℚ) ^ (10 : Int) = 1024 by norm_num]
    rw [zpow_lt_zpow_iff_right₀ one_lt_two] at power
    omega
  simp only [maxExponent] at e_le
  obtain ⟨z, written, value⟩ := exists_canonical (e := e - 10) m_lt
    (by simp only [minExponent]; omega) (by simp only [maxExponent]; omega)
  have quotient : (m : ℚ) * 2 ^ (e - 10) = m * 2 ^ e / 1024 := by
    rw [zpow_sub₀ two_ne_zero, ← mul_div_assoc]
    norm_num
  rw [quotient] at value
  refine div_stands whole unitStep_stands (by norm_num) ?_ written value
  calc (m : ℚ) * 2 ^ e / 1024 = m * 2 ^ (e - 10) := quotient.symm
    _ < 2 ^ (53 + (e - 10)) := scaled_lt m_lt _
    _ ≤ 2 ^ (1023 : Int) := zpow_le_zpow_right₀ one_le_two (by omega)

/-- Taking a number to larger units is exact. It ends at the last unit, or below the next one, and
has passed only units that the number reaches. -/
theorem rescale_stands (n : Nat) (stands : Stands x v) :
    ∃ k y, rescale n x = (k, y) ∧ Stands y (v / 1024 ^ k) ∧ k ≤ n ∧
      (k < n → v / 1024 ^ k < 1024) ∧ (k ≠ 0 → 1 ≤ v / 1024 ^ k) := by
  have here : Stands x (v / 1024 ^ 0) := by rwa [pow_zero, div_one]
  induction n generalizing x v with
  | zero => exact ⟨0, x, rfl, here, le_rfl, by simp, by simp⟩
  | succ n ih =>
    have compared := lt_iff stands.value unitStep_stands.value
    rw [rescale]
    by_cases small : v < 1024
    · refine ⟨0, x, if_pos (compared.mpr small), here, Nat.zero_le _, fun _ => ?_, by simp⟩
      rwa [pow_zero, div_one]
    · have large := le_of_not_gt small
      have step := div_unitStep stands large
      obtain ⟨k, y, scaled, after, within, ended, passed⟩ := ih step (by rwa [pow_zero, div_one])
      have power : v / 1024 / 1024 ^ k = v / 1024 ^ (k + 1) := by
        rw [div_div, pow_succ']
      rw [power] at after ended passed
      refine ⟨k + 1, y, ?_, after, by omega, fun less => ended (by omega), fun _ => ?_⟩
      · rw [if_neg fun less => small (compared.mp less), scaled]
      · by_cases first : k = 0
        · subst first
          rw [pow_one, le_div_iff₀ (by norm_num), one_mul]
          exact large
        · exact passed first

/-- A size is shown for what it is: in whole bytes, or with one place in the largest unit that it
reaches, and at most half a step of the last digit away. Its number is less than that of the next
unit unless it is nearer to it than to the number before. -/
structure Shows (v : ℚ) (s : Shown) : Prop where
  unit : s.unit < units.length
  places : s.places = if s.unit = 0 then 0 else 1
  near : |s.number * s.unitBytes - v| ≤ s.lastDigit / 2 * s.unitBytes
  bytes : s.unit = 0 → s.number = v
  least : s.unit ≠ 0 → 1 ≤ s.number
  most : s.unit + 1 < units.length → s.number ≤ 1024
  below : s.unit + 1 < units.length → (s.number < 1024 ↔ v < 1023.95 * s.unitBytes)

theorem near_of_nearest {places : Nat} (near : IsNearestWhole (v / 1024 ^ k * 10 ^ places) n) :
    |(n : ℚ) / 10 ^ places * 1024 ^ k - v| ≤ 1 / 10 ^ places / 2 * 1024 ^ k := by
  have digit : (0 : ℚ) < 10 ^ places := by positivity
  have unit : (0 : ℚ) < 1024 ^ k := by positivity
  have apart : (n : ℚ) / 10 ^ places * 1024 ^ k - v =
      (n - v / 1024 ^ k * 10 ^ places) * (1 / 10 ^ places * 1024 ^ k) := by
    field_simp
  rw [apart, abs_mul, abs_of_pos (mul_pos (one_div_pos.mpr digit) unit)]
  calc |(n : ℚ) - v / 1024 ^ k * 10 ^ places| * (1 / 10 ^ places * 1024 ^ k)
      ≤ 1 / 2 * (1 / 10 ^ places * 1024 ^ k) := by
        gcongr
        exact near.within
    _ = 1 / 10 ^ places / 2 * 1024 ^ k := by ring

theorem shows_bytes (whole : v = k) (small : k < 1024)
    (near : IsNearestWhole (v / 1024 ^ 0 * 10 ^ 0) n) : Shows v ⟨n, 0, 0⟩ := by
  have same : n = k := by
    rw [pow_zero, pow_zero, div_one, mul_one, whole] at near
    exact Nat.le_antisymm (near.le le_rfl) (near.ge le_rfl)
  have number : Shown.number ⟨n, 0, 0⟩ = v := by
    rw [Shown.number, pow_zero, div_one, same, whole]
  have v_le : v ≤ 1023 := by
    rw [whole]
    exact_mod_cast Nat.le_of_lt_succ small
  refine ⟨show 0 < units.length by decide, rfl, near_of_nearest near, fun _ => number, absurd rfl,
    fun _ => ?_, fun _ => ?_⟩
  · rw [number]
    linarith
  · rw [number, Shown.unitBytes, pow_zero, mul_one]
    constructor <;> intro _ <;> linarith

theorem shows_unit (passed : k ≠ 0) (listed : k < units.length) (least : 1 ≤ v / 1024 ^ k)
    (most : k + 1 < units.length → v / 1024 ^ k < 1024)
    (near : IsNearestWhole (v / 1024 ^ k * 10 ^ 1) n) : Shows v ⟨n, 1, k⟩ := by
  have number : Shown.number ⟨n, 1, k⟩ = n / 10 := by
    rw [Shown.number, pow_one]
  have unit : (0 : ℚ) < 1024 ^ k := by positivity
  refine ⟨listed, (if_neg passed).symm, near_of_nearest near, fun first => absurd first passed,
    fun _ => ?_, fun within => ?_, fun within => ?_⟩
  · have ten : 10 ≤ n := by
      apply near.ge
      push_cast
      linarith
    have ten' : (10 : ℚ) ≤ n := by exact_mod_cast ten
    rw [number]
    linarith
  · have full : n ≤ 10240 := by
      apply near.le
      have small := most within
      push_cast
      linarith
    have full' : (n : ℚ) ≤ 10240 := by exact_mod_cast full
    rw [number]
    linarith
  · -- 10240 tenths are an even number, so that a tie just below is shown as the next unit.
    have full := near.lt_iff (n := 10240) (by decide)
    rw [number, div_lt_iff₀ (by norm_num), Shown.unitBytes, ← div_lt_iff₀ unit]
    have tenths : (n : ℚ) < 1024 * 10 ↔ n < 10240 := by
      rw [← Nat.cast_lt (α := ℚ)]
      norm_num
    rw [tenths, full]
    push_cast
    constructor <;> intro _ <;> linarith

theorem eq_of_small (rounded : IsRounded n x v) (small : v < 1024) : v = n := by
  have n_lt : n < 2 ^ 53 := by
    by_contra large
    obtain ⟨y, canonical, value⟩ := exists_canonical (show 1 < 2 ^ 53 by decide)
      (show minExponent + 52 ≤ 53 by decide) (by decide)
    have least : ((1 : Nat) : ℚ) * 2 ^ (53 : Int) ≤ n := by
      exact_mod_cast le_of_not_gt large
    have bound := rounded.ge canonical value least
    norm_num at bound
    linarith
  obtain ⟨y, canonical, value⟩ := exists_canonical n_lt (show minExponent + 52 ≤ 0 by decide)
    (by decide)
  rw [zpow_zero, mul_one] at value
  exact rounded.eq canonical value

theorem read?_sizeText (stands : Stands x v) (rounded : IsRounded n x v) :
    ∃ s, Shown.read? (sizeText x).toList = some s ∧ Shows v s := by
  obtain ⟨k, y, scaled, after, within, ended, passed⟩ := rescale_stands (units.length - 1) stands
  have listed : k < units.length := Nat.lt_of_le_pred (by decide) within
  obtain ⟨t, near, written⟩ := after.fixed (if k = 0 then 0 else 1)
  have text : (sizeText x).toList =
      pointed (if k = 0 then 0 else 1) t ++ ' ' :: (units.getD k "").toList := by
    rw [sizeText, scaled]
    simp [written]
  refine ⟨⟨t, if k = 0 then 0 else 1, k⟩, ?_, ?_⟩
  · rw [text]
    exact read?_pointed (by split <;> decide) t listed
  · by_cases first : k = 0
    · subst first
      have small := ended (by decide)
      rw [pow_zero, div_one] at small
      have whole := eq_of_small rounded small
      refine shows_bytes whole ?_ near
      rw [whole] at small
      exact_mod_cast small
    · rw [if_neg first] at near ⊢
      exact shows_unit first listed (passed first) (fun more => ended (by omega)) near

end

/-- Whatever bytes a record tells of, the table shows them with a number and a unit. The number is
the value in that unit to half a step of its last digit. It is at least 1 except in bytes, and less
than 1024 except in the last unit and for the values which are at least 1023.95 in their unit. -/
theorem sizes_shown {count blockSize : Nat} (count_lt : count < 2 ^ 64)
    (size_lt : blockSize < 2 ^ 64) :
    ∃ v s, IsRounded (count * blockSize : Nat) (scaledBytes count blockSize) v ∧
      Shown.read? (sizeText (scaledBytes count blockSize)).toList = some s ∧ Shows v s := by
  obtain ⟨m, e, form, rounded⟩ := ofNat_isRounded (product_fits count_lt size_lt)
  rw [← form] at rounded
  obtain ⟨s, read, shows⟩ := read?_sizeText ⟨rounded.canonical, m, e, form, rfl⟩ rounded
  exact ⟨_, s, rounded, read, shows⟩

theorem sizes_shown_below_a_unit :
    sizeText (scaledBytes 262131 4) = "1023.9 KiB" ∧
      ∃ v s, IsRounded (262131 * 4 : Nat) (scaledBytes 262131 4) v ∧
        Shown.read? (sizeText (scaledBytes 262131 4)).toList = some s ∧ Shows v s :=
  ⟨by decide +kernel, sizes_shown (by decide) (by decide)⟩

/-- One byte less than a MiB is 1023.999 KiB, and shown as 1024.0 of them. -/
theorem number_of_next_unit_shown :
    ¬ ∀ count blockSize, count < 2 ^ 64 → blockSize < 2 ^ 64 →
      ∃ s, Shown.read? (sizeText (scaledBytes count blockSize)).toList = some s ∧
        (s.unit + 1 < units.length → s.number < 1024) := by
  intro claim
  obtain ⟨s, read, small⟩ := claim 1048575 1 (by decide) (by decide)
  have shown : Shown.read? (sizeText (scaledBytes 1048575 1)).toList = some ⟨10240, 1, 1⟩ := by
    decide +kernel
  cases shown.symm.trans read
  have number := small (by decide)
  norm_num [Shown.number] at number

end MountProbe.Command
