-- SUMMARY: Rounding to the numbers of a binary floating-point format.
import Mathlib.Data.Int.Log
import Mathlib.Data.Rat.Floor
import Mathlib.Tactic.FieldSimp
import Mathlib.Tactic.Linarith

/-!
# Rounding

A format has so many bits for the digits of a number, and a least exponent. A number is
rounded to a multiple of the last place that the numbers of its size have. The largest
number of a format is left to its users.
-/

namespace Rounding

/-- Round to the nearest integer, halves to the even one. -/
def roundHalfEven (q : ℚ) : ℤ :=
  let r := q - ⌊q⌋
  if r < 1 / 2 then ⌊q⌋
  else if 1 / 2 < r then ⌊q⌋ + 1
  else if ⌊q⌋ % 2 = 0 then ⌊q⌋ else ⌊q⌋ + 1

theorem roundHalfEven_cases (q : ℚ) :
    roundHalfEven q = ⌊q⌋ ∨ roundHalfEven q = ⌊q⌋ + 1 ∧ (⌊q⌋ : ℚ) < q := by
  have hfloor := Int.floor_le q
  grind [roundHalfEven]

theorem roundHalfEven_le (q : ℚ) : (roundHalfEven q : ℚ) ≤ q + 1 := by
  have hfloor := Int.floor_le q
  obtain h | ⟨h, -⟩ := roundHalfEven_cases q <;> rw [h] <;> push_cast <;> linarith

theorem roundHalfEven_intCast (n : ℤ) : roundHalfEven (n : ℚ) = n := by
  obtain h | ⟨-, h⟩ := roundHalfEven_cases n
  · rw [h, Int.floor_intCast]
  · rw [Int.floor_intCast] at h
    exact absurd h (lt_irrefl _)

/-- Rounding stays between whole numbers. -/
theorem abs_roundHalfEven_le {q : ℚ} {n : ℤ} (h : |q| ≤ n) : |roundHalfEven q| ≤ n := by
  obtain ⟨hlow, hhigh⟩ := abs_le.mp h
  have hfloor : -n ≤ ⌊q⌋ := Int.le_floor.mpr (by push_cast; exact hlow)
  rw [abs_le]
  obtain hround | ⟨hround, hlt⟩ := roundHalfEven_cases q
  · have hle : ⌊q⌋ ≤ n := Int.floor_le_iff.mpr (by linarith)
    omega
  · have hle : ⌊q⌋ < n := by exact_mod_cast hlt.trans_le hhigh
    omega

/-- A binary format: the number of digits, and the exponent of the last place of its
smallest numbers. -/
structure Format where
  digits : ℕ
  minExponent : ℤ

namespace Format

variable {f : Format} {q : ℚ}

/-- The exponent of the last place of the numbers of this size. -/
def lastPlace (f : Format) (q : ℚ) : ℤ := max (Int.log 2 |q| + 1 - f.digits) f.minExponent

/-- The nearest number of the format, with an even last digit if there are two. -/
def round (f : Format) (q : ℚ) : ℚ :=
  roundHalfEven (q / 2 ^ f.lastPlace q) * 2 ^ f.lastPlace q

/-- The number is one of the format, whatever its size. -/
def Holds (f : Format) (q : ℚ) : Prop :=
  ∃ m e : ℤ, |m| ≤ 2 ^ f.digits ∧ f.minExponent ≤ e ∧ q = m * 2 ^ e

theorem two_zpow_ne_zero (e : ℤ) : (2 : ℚ) ^ e ≠ 0 := zpow_ne_zero e two_ne_zero

/-- A multiple of its last place is not rounded. -/
theorem round_of_multiple {m : ℤ} (h : q = m * 2 ^ f.lastPlace q) : f.round q = q := by
  have hdiv : q / 2 ^ f.lastPlace q = m := by
    rw [div_eq_iff (two_zpow_ne_zero _)]
    exact h
  rw [round, hdiv, roundHalfEven_intCast]
  exact h.symm

/-- The last place is not beyond that of any way to write the number. -/
theorem lastPlace_le {m e : ℤ} (hm : |m| < 2 ^ f.digits) (hne : m ≠ 0) (he : f.minExponent ≤ e) :
    f.lastPlace (m * 2 ^ e) ≤ e := by
  have hpos : (0 : ℚ) < |(m : ℚ) * 2 ^ e| :=
    abs_pos.mpr (mul_ne_zero (Int.cast_ne_zero.mpr hne) (two_zpow_ne_zero e))
  have hlt : |(m : ℚ) * 2 ^ e| < 2 ^ ((f.digits : ℤ) + e) := by
    have hm' : |(m : ℚ)| < 2 ^ (f.digits : ℤ) := by
      rw [zpow_natCast]
      exact_mod_cast hm
    rw [abs_mul, abs_of_pos (zpow_pos two_pos e : (0 : ℚ) < 2 ^ e),
      zpow_add₀ two_ne_zero]
    exact mul_lt_mul_of_pos_right hm' (zpow_pos two_pos e)
  have hlog : Int.log 2 |(m : ℚ) * 2 ^ e| < f.digits + e :=
    (Int.lt_zpow_iff_log_lt (by decide) hpos).mp (by exact_mod_cast hlt)
  exact max_le (by omega) he

/-- The numbers of the format are not rounded. -/
theorem Holds.round_eq (h : f.Holds q) (hdigits : 0 < f.digits) : f.round q = q := by
  obtain ⟨m, e, hm, he, rfl⟩ := h
  rcases eq_or_ne m 0 with rfl | hne
  · exact round_of_multiple (m := 0) (by simp)
  -- A significand with one digit too many is a power of two, which has fewer.
  obtain ⟨m', e', hm', hne', he', heq⟩ : ∃ m' e' : ℤ, |m'| < 2 ^ f.digits ∧ m' ≠ 0 ∧
      f.minExponent ≤ e' ∧ (m : ℚ) * 2 ^ e = m' * 2 ^ e' := by
    rcases hm.lt_or_eq with hlt | htop
    · exact ⟨m, e, hlt, hne, he, rfl⟩
    · obtain ⟨k, hk⟩ : ∃ k, f.digits = k + 1 := ⟨f.digits - 1, by omega⟩
      have heven : (2 : ℤ) ∣ m := by
        rw [← dvd_abs, htop, hk, pow_succ]
        exact Dvd.intro_left _ rfl
      obtain ⟨half, rfl⟩ := heven
      rw [abs_mul, hk, pow_succ, abs_of_pos (by decide : (0 : ℤ) < 2)] at htop
      refine ⟨half, e + 1, ?_, by rintro rfl; exact hne rfl, by omega, ?_⟩
      · rw [hk, pow_succ]
        have hpos : (0 : ℤ) < 2 ^ k := pow_pos (by decide) k
        omega
      · rw [zpow_add₀ two_ne_zero, zpow_one]
        push_cast
        ring
  rw [heq]
  obtain ⟨k, hk⟩ := Int.le.dest (lastPlace_le hm' hne' he')
  refine round_of_multiple (m := m' * 2 ^ k) ?_
  have hsplit : (2 : ℚ) ^ e' = 2 ^ k * 2 ^ f.lastPlace ((m' : ℚ) * 2 ^ e') := by
    rw [← zpow_natCast (2 : ℚ) k, ← zpow_add₀ two_ne_zero, add_comm, hk]
  push_cast
  rw [mul_assoc, ← hsplit]

theorem holds_round (f : Format) (q : ℚ) : f.Holds (f.round q) := by
  refine ⟨roundHalfEven (q / 2 ^ f.lastPlace q), f.lastPlace q, ?_, le_max_right _ _, rfl⟩
  have hpos : (0 : ℚ) < 2 ^ f.lastPlace q := zpow_pos two_pos _
  have hle : Int.log 2 |q| + 1 ≤ (f.digits : ℤ) + f.lastPlace q := by
    have := le_max_left (Int.log 2 |q| + 1 - f.digits) f.minExponent
    unfold lastPlace
    omega
  refine abs_roundHalfEven_le ?_
  rw [abs_div, abs_of_pos hpos, div_le_iff₀ hpos]
  calc |q| ≤ ((2 : ℕ) : ℚ) ^ (Int.log 2 |q| + 1) := (Int.lt_zpow_succ_log_self (by decide) _).le
    _ ≤ ((2 : ℕ) : ℚ) ^ ((f.digits : ℤ) + f.lastPlace q) := zpow_le_zpow_right₀ (by norm_num) hle
    _ = ((2 ^ f.digits : ℤ) : ℚ) * 2 ^ f.lastPlace q := by
      push_cast
      rw [zpow_add₀ two_ne_zero, zpow_natCast]

theorem round_round (f : Format) (hdigits : 0 < f.digits) (q : ℚ) :
    f.round (f.round q) = f.round q :=
  (f.holds_round q).round_eq hdigits

/-- Rounding stays between whole numbers that have no more digits than the format. -/
theorem abs_round_le {n : ℤ} (h : |q| ≤ n) (hn : n < 2 ^ f.digits) (hdigits : 0 < f.digits)
    (hmin : f.minExponent ≤ 0) : |f.round q| ≤ n := by
  have hplace : f.lastPlace q ≤ 0 := by
    refine max_le ?_ hmin
    rcases eq_or_ne q 0 with rfl | hne
    · rw [abs_zero, Int.log_of_right_le_zero 2 le_rfl]
      omega
    · have hlog : Int.log 2 |q| < f.digits := by
        refine (Int.lt_zpow_iff_log_lt (by decide) (abs_pos.mpr hne)).mp ?_
        rw [zpow_natCast]
        exact h.trans_lt (by exact_mod_cast hn)
      omega
  obtain ⟨k, hk⟩ := Int.le.dest hplace
  have hpos : (0 : ℚ) < 2 ^ f.lastPlace q := zpow_pos two_pos _
  have hone : (2 : ℚ) ^ k * 2 ^ f.lastPlace q = 1 := by
    rw [← zpow_natCast, ← zpow_add₀ two_ne_zero, add_comm, hk, zpow_zero]
  have hround : |roundHalfEven (q / 2 ^ f.lastPlace q)| ≤ n * 2 ^ k := by
    refine abs_roundHalfEven_le ?_
    rw [abs_div, abs_of_pos hpos, div_le_iff₀ hpos]
    push_cast
    rw [mul_assoc, hone, mul_one]
    exact h
  have hcast : |(roundHalfEven (q / 2 ^ f.lastPlace q) : ℚ)| ≤ n * 2 ^ k := by exact_mod_cast hround
  calc |f.round q| = |(roundHalfEven (q / 2 ^ f.lastPlace q) : ℚ)| * 2 ^ f.lastPlace q := by
        rw [round, abs_mul, abs_of_pos hpos]
    _ ≤ n * 2 ^ k * 2 ^ f.lastPlace q := mul_le_mul_of_nonneg_right hcast hpos.le
    _ = n := by rw [mul_assoc, hone, mul_one]

/-- Whole numbers with no more digits than the format has. -/
theorem holds_intCast {n : ℤ} (hn : |n| ≤ 2 ^ f.digits) (hmin : f.minExponent ≤ 0) :
    f.Holds n := ⟨n, 0, hn, hmin, by simp⟩

end Format

end Rounding
