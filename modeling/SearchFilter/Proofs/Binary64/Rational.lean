import Mathlib.Algebra.Order.Field.Rat
import Mathlib.Data.Rat.Lemmas
import Mathlib.Tactic.Positivity
import SearchFilter.Proofs.Binary64.Order

/-!
# What numbers are worth

Decimals and binary numbers as rational numbers, and reading as a function of the worth alone:
however a decimal is written, its value is rounded once.

* `round_mono`: rounding keeps the order of all rational numbers.
* `toRat?_ofDecimal`: a decimal that does not overflow is read as its value rounded.
-/

namespace SearchFilter

/-- A magnitude behind a sign. -/
def signedRat (negative : Bool) (q : ℚ) : ℚ := if negative then -q else q

/-- The number that a decimal denotes. -/
def Decimal.toRat (decimal : Decimal) : ℚ :=
  signedRat decimal.negative (decimal.coefficient * 10 ^ decimal.exponent)

@[simp] theorem signedRat_zero (negative : Bool) : signedRat negative 0 = 0 := by
  cases negative <;> simp [signedRat]

@[simp] theorem abs_signedRat (negative : Bool) (q : ℚ) : |signedRat negative q| = |q| := by
  cases negative <;> simp [signedRat]

/-- The sign of a number is the one that its magnitude stands behind. -/
theorem signedRat_lt_zero_iff {q : ℚ} (hq : 0 < q) (negative : Bool) :
    signedRat negative q < 0 ↔ negative = true := by
  cases negative with
  | false => simpa [signedRat] using hq.le
  | true => simpa [signedRat] using hq

namespace Binary64

/-- The number that a finite binary number is; the two zeros are the same number. -/
def toRat? : Binary64 → Option ℚ
  | finite negative code => some (signedRat negative (units code / unitsPerOne))
  | _ => none

/-! ### Rounding -/

/-- The magnitude, in units, that is nearest to the magnitude of a number. -/
def nearestUnits (q : ℚ) : Nat := units (nearestCode (q.num.natAbs * unitsPerOne) q.den)

/-- A number rounded to the magnitudes that there are, with no limit to their size. -/
def round (q : ℚ) : ℚ := signedRat (q < 0) (nearestUnits q / unitsPerOne)

theorem units_zero : units 0 = 0 := by decide

theorem abs_eq_natAbs_div_den (q : ℚ) : |q| = (q.num.natAbs : ℚ) / q.den := by
  conv_lhs => rw [← Rat.num_div_den q]
  rw [abs_div, Nat.abs_cast, Nat.cast_natAbs, Int.cast_abs]

theorem nearestUnits_mono {p q : ℚ} (h : |p| ≤ |q|) : nearestUnits p ≤ nearestUnits q := by
  have hden : ∀ r : ℚ, (0 : ℚ) < r.den := fun r => by exact_mod_cast r.den_pos
  rw [abs_eq_natAbs_div_den, abs_eq_natAbs_div_den, div_le_div_iff₀ (hden p) (hden q)] at h
  have hnat : p.num.natAbs * q.den ≤ q.num.natAbs * p.den := by exact_mod_cast h
  refine units_strictMono.monotone (nearestCode_mono p.den_pos q.den_pos ?_)
  rw [Nat.mul_right_comm, Nat.mul_right_comm q.num.natAbs]
  exact Nat.mul_le_mul_right unitsPerOne hnat

/-- The quotient may be written in any way. -/
theorem nearestUnits_eq {q : ℚ} {n d : Nat} (hd : 0 < d) (h : |q| = n / d) :
    nearestUnits q = units (nearestCode (n * unitsPerOne) d) := by
  have hden : (0 : ℚ) < q.den := by exact_mod_cast q.den_pos
  have hd' : (0 : ℚ) < d := by exact_mod_cast hd
  rw [abs_eq_natAbs_div_den, div_eq_div_iff hden.ne' hd'.ne'] at h
  have hnat : q.num.natAbs * d = n * q.den := by exact_mod_cast h
  have hunits : q.num.natAbs * unitsPerOne * d = n * unitsPerOne * q.den := by
    rw [Nat.mul_right_comm, hnat, Nat.mul_right_comm]
  refine congrArg units (le_antisymm ?_ ?_)
  · exact nearestCode_mono q.den_pos hd hunits.le
  · exact nearestCode_mono hd q.den_pos hunits.ge

@[simp] theorem nearestUnits_zero : nearestUnits 0 = 0 := by
  have h : nearestUnits 0 = units (nearestCode (0 * unitsPerOne) 1) :=
    nearestUnits_eq Nat.one_pos (by simp)
  rw [h, Nat.zero_mul, nearestCode_of_two_mul_lt Nat.one_pos, units_zero]

/-- **Rounding keeps the order of numbers.** -/
theorem round_mono : Monotone round := by
  intro p q h
  have hpos : (0 : ℚ) < unitsPerOne := by exact_mod_cast unitsPerOne_pos
  have hmagnitude : ∀ r : ℚ, (0 : ℚ) ≤ nearestUnits r / unitsPerOne := fun r => by positivity
  have hle : ∀ {r s : ℚ}, |r| ≤ |s| →
      (nearestUnits r / unitsPerOne : ℚ) ≤ nearestUnits s / unitsPerOne := by
    intro r s hrs
    have hunits : (nearestUnits r : ℚ) ≤ nearestUnits s := by exact_mod_cast nearestUnits_mono hrs
    gcongr
  by_cases hp : p < 0
  · by_cases hq : q < 0
    · -- below zero the magnitudes are in the opposite order
      have habs : |q| ≤ |p| := by
        rw [abs_of_neg hp, abs_of_neg hq]
        exact neg_le_neg h
      simp only [round, signedRat, hp, hq, decide_true, if_true]
      exact neg_le_neg (hle habs)
    · simp only [round, signedRat, hp, hq, decide_true, decide_false, if_true]
      exact (neg_nonpos.2 (hmagnitude p)).trans (hmagnitude q)
  · have hq : ¬ q < 0 := fun hneg => hp (h.trans_lt hneg)
    have habs : |p| ≤ |q| := by
      rw [abs_of_nonneg (not_lt.1 hp), abs_of_nonneg (not_lt.1 hq)]
      exact h
    simp only [round, signedRat, hp, hq, decide_false]
    exact hle habs

/-! ### Reading -/

theorem toRat?_ofUnits {negative : Bool} {n d : Nat} (h : (ofUnits negative n d).isFinite = true) :
    (ofUnits negative n d).toRat? =
      some (signedRat negative (units (nearestCode n d) / unitsPerOne)) := by
  unfold ofUnits at h ⊢
  dsimp only at h ⊢
  split
  · rfl
  · next hlimit =>
    rw [dif_neg hlimit] at h
    cases h

/-- The magnitude of a decimal, with its exponent taken apart. -/
theorem mul_zpow_eq_div (coefficient up down : Nat) :
    (coefficient * 10 ^ (up - down : Int) : ℚ) =
      (coefficient * 10 ^ up : Nat) / (10 ^ down : Nat) := by
  rw [zpow_sub₀ (by norm_num), zpow_natCast, zpow_natCast]
  push_cast
  rw [mul_div_assoc]

/-- **Reading rounds what a decimal is worth**, unless it overflows. -/
theorem toRat?_ofDecimal {decimal : Decimal} (h : (ofDecimal decimal).isFinite = true) :
    (ofDecimal decimal).toRat? = some (round decimal.toRat) := by
  obtain ⟨negative, coefficient, exponent⟩ := decimal
  obtain ⟨up, down, rfl⟩ : ∃ up down : Nat, exponent = up - down :=
    ⟨exponent.toNat, (-exponent).toNat, by omega⟩
  have hten : 0 < 10 ^ down := Nat.pow_pos (by decide)
  have hworth : Decimal.toRat ⟨negative, coefficient, up - down⟩ =
      signedRat negative ((coefficient * 10 ^ up : Nat) / (10 ^ down : Nat)) := by
    rw [← mul_zpow_eq_div]
    rfl
  generalize Decimal.toRat ⟨negative, coefficient, up - down⟩ = worth at hworth ⊢
  have hnearest : nearestUnits worth =
      units (nearestCode (coefficient * 10 ^ up * unitsPerOne) (10 ^ down)) := by
    refine nearestUnits_eq hten ?_
    rw [hworth, abs_signedRat, abs_of_nonneg (by positivity)]
  rw [ofDecimal_eq_ofUnits] at h ⊢
  rw [toRat?_ofUnits h, ← hnearest, round]
  by_cases hzero : coefficient = 0
  · -- zero is zero behind either sign
    have hnothing : worth = 0 := by simp [hworth, hzero]
    simp [hnothing]
  · have hpos : (0 : ℚ) < (coefficient * 10 ^ up : Nat) / (10 ^ down : Nat) := by
      have : 0 < coefficient := Nat.pos_of_ne_zero hzero
      positivity
    have hsign : decide (worth < 0) = negative := by
      rw [hworth, Bool.eq_iff_iff, decide_eq_true_iff]
      exact signedRat_lt_zero_iff hpos negative
    rw [hsign]

end Binary64

end SearchFilter
