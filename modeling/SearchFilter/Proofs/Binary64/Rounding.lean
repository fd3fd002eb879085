import Mathlib.Algebra.Order.Ring.Nat
import Mathlib.Tactic.Ring
import SearchFilter.Binary64.Decimal

/-!
# Rounding to the nearest code

A quotient of units is rounded for what it is worth: it may be expanded by any factor. What is a
magnitude already keeps its code, what reaches twice the greatest power of two overflows, and what
is less than half a unit becomes zero. The last two are why an exponent far out need not be computed
with.

* `nearestCode_units`: magnitudes are kept.
* `ofDecimal_eq_ofUnits`: reading a decimal is a single rounding of its exact value.
-/

namespace SearchFilter

namespace Binary64

/-! ### Rounding quotients -/

theorem roundHalfEven_mul_mul_right {k : Nat} (hk : 0 < k) (n d : Nat) :
    roundHalfEven (n * k) (d * k) = roundHalfEven n d := by
  have hdiv : n * k / (d * k) = n / d := Nat.mul_div_mul_right n d hk
  have hmod : 2 * (n * k % (d * k)) = 2 * (n % d) * k := by
    rw [Nat.mul_mod_mul_right, Nat.mul_assoc]
  simp only [roundHalfEven, hdiv, hmod, Nat.mul_lt_mul_right hk]

theorem div_le_roundHalfEven (n d : Nat) : n / d ≤ roundHalfEven n d := by
  rcases roundHalfEven_eq_or n d with h | h
  · exact h.ge
  · omega

/-- Only the worth of a quotient counts, and not how it is written. -/
theorem nearestCode_mul_mul_right {k : Nat} (hk : 0 < k) (n d : Nat) :
    nearestCode (n * k) (d * k) = nearestCode n d := by
  have hdiv : n * k / (d * k) = n / d := Nat.mul_div_mul_right n d hk
  have hround : ∀ unit, roundHalfEven (n * k) (d * k * unit) = roundHalfEven n (d * unit) := by
    intro unit
    rw [Nat.mul_right_comm d k unit]
    exact roundHalfEven_mul_mul_right hk n (d * unit)
  simp only [nearestCode, hdiv, hround]

theorem ofUnits_mul_mul_right (negative : Bool) {k : Nat} (hk : 0 < k) (n d : Nat) :
    ofUnits negative (n * k) (d * k) = ofUnits negative n d := by
  simp only [ofUnits, nearestCode_mul_mul_right hk]

/-! ### Magnitudes -/

theorem fractions_eq : fractions = 2 ^ 52 := by decide

/-- Above the fractions a magnitude has 53 bits in front of its zeros. -/
theorem log2_units {code : Nat} (h : fractions ≤ code) :
    (units code).log2 = 52 + (code / fractions - 1) := by
  have hlt : code % fractions < fractions := Nat.mod_lt code (by decide)
  have hpos : 0 < 2 ^ (code / fractions - 1) := Nat.two_pow_pos _
  have hunits : units code = (2 ^ 52 + code % fractions) * 2 ^ (code / fractions - 1) := by
    rw [units, if_neg (Nat.not_lt.2 h), fractions_eq]
    rfl
  rw [hunits, Nat.log2_eq_iff (Nat.mul_ne_zero (by omega) hpos.ne')]
  constructor
  · rw [Nat.pow_add]
    exact Nat.mul_le_mul_right _ (Nat.le_add_right _ _)
  · rw [Nat.add_right_comm, Nat.pow_add]
    refine Nat.mul_lt_mul_of_pos_right ?_ hpos
    rw [fractions_eq] at hlt ⊢
    omega

/-- The code of a magnitude is the code nearest to it. -/
theorem nearestCode_units (code : Nat) {d : Nat} (hd : 0 < d) :
    nearestCode (units code * d) d = code := by
  have hone : nearestCode (units code * d) d = nearestCode (units code) 1 := by
    have hscale := nearestCode_mul_mul_right hd (units code) 1
    rwa [Nat.one_mul] at hscale
  rw [hone]
  by_cases h : code < fractions
  · have hunits : units code = code := if_pos h
    rw [hunits]
    exact nearestCode_of_lt (by omega)
  · -- the bits behind the 53 are zeros, so that nothing is rounded
    have hle : fractions ≤ code := Nat.not_lt.1 h
    have hshift : (units code).log2 - 52 = code / fractions - 1 := by
      rw [log2_units hle, Nat.add_sub_cancel_left]
    have hround : roundHalfEven (units code) (1 * Nat.pow 2 (code / fractions - 1)) =
        fractions + code % fractions := by
      rw [Nat.one_mul, units, if_neg h]
      exact roundHalfEven_mul_left (Nat.two_pow_pos _) _
    have hexponent : 1 ≤ code / fractions := (Nat.one_le_div_iff (by decide)).2 hle
    have hcode := Nat.div_add_mod' code fractions
    have hsplit : code / fractions * fractions =
        (code / fractions - 1) * fractions + fractions := by
      rw [← Nat.succ_mul, Nat.succ_eq_add_one, Nat.sub_add_cancel hexponent]
    simp only [nearestCode, Nat.div_one, hshift, hround]
    omega

/-! ### Both ends of the range -/

/-- Less than half a unit is nothing. -/
theorem nearestCode_of_two_mul_lt {n d : Nat} (h : 2 * n < d) : nearestCode n d = 0 := by
  have hlt : n < d := by omega
  have hdiv : n / d = 0 := Nat.div_eq_of_lt hlt
  have hround : roundHalfEven n d = 0 := by
    simp only [roundHalfEven, hdiv, Nat.mod_eq_of_lt hlt, if_pos h]
  have hshift : (n / d).log2 - 52 = 0 := by
    rw [hdiv]
    rfl
  rw [nearestCode, hshift]
  show 0 * fractions + roundHalfEven n (d * 1) = 0
  rw [Nat.zero_mul, Nat.mul_one, hround]

/-- Twice the greatest power of two is too much. -/
theorem codeLimit_le_nearestCode {n d k : Nat} (hd : 0 < d) (hk : 2098 ≤ k) (h : 2 ^ k * d ≤ n) :
    codeLimit ≤ nearestCode n d := by
  have hdiv : 2 ^ k ≤ n / d := (Nat.le_div_iff_mul_le hd).2 h
  have hne : n / d ≠ 0 := (lt_of_lt_of_le (Nat.two_pow_pos k) hdiv).ne'
  have hlog : k ≤ (n / d).log2 := (Nat.le_log2 hne).2 hdiv
  obtain ⟨shift, hshift⟩ : ∃ shift, (n / d).log2 = 52 + shift :=
    ⟨(n / d).log2 - 52, by omega⟩
  -- the quotient keeps its 53 bits, so that the shift alone reaches the limit
  have hround : fractions ≤ roundHalfEven n (d * 2 ^ shift) := by
    refine le_trans ?_ (div_le_roundHalfEven _ _)
    rw [← Nat.div_div_eq_div_mul, Nat.le_div_iff_mul_le (Nat.two_pow_pos _), fractions_eq,
      ← Nat.pow_add, ← hshift]
    exact Nat.log2_self_le hne
  have hlimit : codeLimit = 2046 * fractions + fractions := by decide
  have hcode : nearestCode n d = shift * fractions + roundHalfEven n (d * 2 ^ shift) := by
    rw [nearestCode, hshift, Nat.add_sub_cancel_left]
    rfl
  have hmul : 2046 * fractions ≤ shift * fractions := Nat.mul_le_mul_right _ (by omega)
  omega

theorem ofUnits_of_two_mul_lt (negative : Bool) {n d : Nat} (h : 2 * n < d) :
    ofUnits negative n d = zero negative := by
  simp only [ofUnits, nearestCode_of_two_mul_lt h]
  rfl

theorem ofUnits_of_le (negative : Bool) {n d k : Nat} (hd : 0 < d) (hk : 2098 ≤ k)
    (h : 2 ^ k * d ≤ n) : ofUnits negative n d = infinite negative := by
  have hcode := codeLimit_le_nearestCode hd hk h
  rw [ofUnits]
  exact dif_neg (Nat.not_lt.2 hcode)

/-! ### Decimals -/

/-- The number of units in one. -/
@[irreducible]
def unitsPerOne : Nat := Nat.pow 2 1074

/-- The exponent stands for itself, so that no proof computes the power. -/
theorem exists_unitsPerOne_eq : ∃ bits, bits = 1074 ∧ unitsPerOne = 2 ^ bits := by
  have hpow : ∀ bits, bits = 1074 → Nat.pow 2 1074 = 2 ^ bits := by
    rintro bits hbits
    rw [← hbits, Nat.pow_eq]
  unfold unitsPerOne
  obtain ⟨bits, hbits⟩ : ∃ bits, bits = 1074 := ⟨_, rfl⟩
  exact ⟨bits, hbits, hpow bits hbits⟩

theorem unitsPerOne_pos : 0 < unitsPerOne := by
  obtain ⟨bits, -, hbits⟩ := exists_unitsPerOne_eq
  rw [hbits]
  exact Nat.two_pow_pos bits

/-- Decimal digits are worth 93 bits for each 28 of them. -/
theorem two_pow_le_ten_pow {a b : Nat} (h : 28 * a ≤ 93 * b) : 2 ^ a ≤ 10 ^ b := by
  have hpower : (2 ^ a) ^ 28 ≤ (10 ^ b) ^ 28 := by
    calc (2 ^ a) ^ 28 = 2 ^ (28 * a) := by rw [← Nat.pow_mul, Nat.mul_comm]
      _ ≤ 2 ^ (93 * b) := Nat.pow_le_pow_right (by decide) h
      _ = (2 ^ 93) ^ b := Nat.pow_mul 2 93 b
      _ ≤ (10 ^ 28) ^ b := Nat.pow_le_pow_left (by decide) b
      _ = (10 ^ b) ^ 28 := by rw [← Nat.pow_mul, ← Nat.pow_mul, Nat.mul_comm]
  exact (Nat.pow_le_pow_iff_left (by decide)).1 hpower

/-- An exponent above 309 makes any coefficient too great. -/
theorem ofUnits_of_lt_exponent (negative : Bool) {coefficient up : Nat} (hne : coefficient ≠ 0)
    (h : 309 < up) :
    ofUnits negative (coefficient * 10 ^ up * unitsPerOne) 1 = infinite negative := by
  have hten : 2 ^ 1024 ≤ coefficient * 10 ^ up :=
    le_trans (two_pow_le_ten_pow (by omega))
      (Nat.le_mul_of_pos_left _ (Nat.pos_of_ne_zero hne))
  obtain ⟨bits, hbits, hone⟩ := exists_unitsPerOne_eq
  have hunits : 2 ^ (1024 + bits) * 1 ≤ coefficient * 10 ^ up * unitsPerOne := by
    rw [Nat.mul_one, pow_add, ← hone]
    exact Nat.mul_le_mul_right _ hten
  exact ofUnits_of_le negative Nat.one_pos (by omega) hunits

/-- An exponent far below the length of a coefficient makes it too small. -/
theorem ofUnits_of_exponent_lt (negative : Bool) {coefficient down : Nat}
    (h : coefficient.log2 + 331 < down) :
    ofUnits negative (coefficient * unitsPerOne) (10 ^ down) = zero negative := by
  obtain ⟨bits, hbits, hone⟩ := exists_unitsPerOne_eq
  have hten : 2 ^ (1 + (coefficient.log2 + 1) + bits) ≤ 10 ^ down :=
    two_pow_le_ten_pow (by omega)
  have hcoefficient : coefficient < 2 ^ (coefficient.log2 + 1) := Nat.lt_log2_self
  rw [Nat.pow_add, Nat.pow_add, Nat.pow_one, ← hone] at hten
  refine ofUnits_of_two_mul_lt negative (lt_of_lt_of_le ?_ hten)
  rw [← Nat.mul_assoc]
  exact Nat.mul_lt_mul_of_pos_right (Nat.mul_lt_mul_of_pos_left hcoefficient (by decide))
    unitsPerOne_pos

/-- Neither end of the range is an exception, for exponents that are not negative. -/
theorem ofDecimal_natCast (negative : Bool) {coefficient : Nat} (hne : coefficient ≠ 0)
    (up : Nat) :
    ofDecimal ⟨negative, coefficient, up⟩ =
      ofUnits negative (coefficient * 10 ^ up * unitsPerOne) 1 := by
  by_cases hup : 309 < up
  · rw [ofUnits_of_lt_exponent negative hne hup]
    unfold ofDecimal
    dsimp only
    rw [if_neg hne, if_pos (by omega)]
  · unfold ofDecimal
    dsimp only
    rw [if_neg hne, if_neg (by omega), if_neg (by omega)]
    unfold unitsPerOne
    exact rfl

/-- Nor for those that are. -/
theorem ofDecimal_negSucc (negative : Bool) {coefficient : Nat} (hne : coefficient ≠ 0)
    (down : Nat) :
    ofDecimal ⟨negative, coefficient, .negSucc down⟩ =
      ofUnits negative (coefficient * unitsPerOne) (10 ^ (down + 1)) := by
  by_cases hdown : coefficient.log2 + 331 < down + 1
  · rw [ofUnits_of_exponent_lt negative hdown]
    unfold ofDecimal
    dsimp only
    rw [if_neg hne, if_neg (by omega), if_pos (by omega)]
  · unfold ofDecimal
    dsimp only
    rw [if_neg hne, if_neg (by omega), if_neg (by omega)]
    unfold unitsPerOne
    exact rfl

/-- A decimal is rounded once, from its exact value. -/
theorem ofDecimal_eq_ofUnits (negative : Bool) (coefficient up down : Nat) :
    ofDecimal ⟨negative, coefficient, up - down⟩ =
      ofUnits negative (coefficient * 10 ^ up * unitsPerOne) (10 ^ down) := by
  have hten : ∀ n, 0 < 10 ^ n := fun n => Nat.pow_pos (by decide)
  by_cases hne : coefficient = 0
  · rw [hne, Nat.zero_mul, Nat.zero_mul, ofUnits_of_two_mul_lt negative (hten down)]
    rfl
  · -- powers of ten above and below the line cancel
    by_cases hle : down ≤ up
    · obtain ⟨more, rfl⟩ := Nat.exists_eq_add_of_le hle
      have hexponent : ((down + more : Nat) : Int) - down = (more : Nat) := by omega
      have hscale := ofUnits_mul_mul_right negative (hten down)
        (coefficient * 10 ^ more * unitsPerOne) 1
      have hunits : coefficient * 10 ^ more * unitsPerOne * 10 ^ down =
          coefficient * 10 ^ (down + more) * unitsPerOne := by ring
      rw [hexponent, ofDecimal_natCast negative hne, ← hscale, Nat.one_mul, hunits]
    · obtain ⟨more, rfl⟩ := Nat.exists_eq_add_of_lt (Nat.not_le.1 hle)
      have hexponent : (up : Int) - ((up + more + 1 : Nat) : Int) = .negSucc more := by omega
      have hscale := ofUnits_mul_mul_right negative (hten up)
        (coefficient * unitsPerOne) (10 ^ (more + 1))
      have hunits : coefficient * unitsPerOne * 10 ^ up = coefficient * 10 ^ up * unitsPerOne := by
        ring
      have hdown : 10 ^ (more + 1) * 10 ^ up = 10 ^ (up + more + 1) := by ring
      rw [hexponent, ofDecimal_negSucc negative hne, ← hscale, hunits, hdown]

/-- Zeros at the end of a coefficient can be counted in the exponent. -/
theorem ofDecimal_mul_ten_pow (negative : Bool) (coefficient zeros : Nat) (exponent : Int) :
    ofDecimal ⟨negative, coefficient * 10 ^ zeros, exponent⟩ =
      ofDecimal ⟨negative, coefficient, exponent + zeros⟩ := by
  obtain ⟨up, down, rfl⟩ : ∃ up down : Nat, exponent = up - down :=
    ⟨exponent.toNat, (-exponent).toNat, by omega⟩
  have hexponent : (up - down : Int) + zeros = ((zeros + up : Nat) : Int) - down := by omega
  rw [hexponent, ofDecimal_eq_ofUnits, ofDecimal_eq_ofUnits, Nat.pow_add, ← Nat.mul_assoc]

end Binary64

end SearchFilter
