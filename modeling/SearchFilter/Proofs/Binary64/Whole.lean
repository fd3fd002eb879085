import SearchFilter.Proofs.Binary64.Rational
import SearchFilter.Proofs.Binary64.Text

/-!
# Whole numbers up to 2⁵³

Each of them is a magnitude, so that it is read without rounding. Its shortest digits are its own: a
multiple of ten that is another number is another magnitude too, or lies above 2⁵³, where it is at
least two away. So the search stops at the last grid on which the number lies, and the layout writes
the zeros that were left out.

* `exists_ofDecimal_whole`: a whole number is read as itself.
* `shortest_whole`: its digits are those of the number.
* `magnitudeText_whole`: its text is the number and a zero behind the point.
-/

namespace SearchFilter

namespace Binary64

/-! ### Whole numbers are magnitudes -/

theorem units_of_lt {m : Nat} (h : m < 2 * fractions) : units m = m := by
  rw [units]
  split_ifs with hlt
  · rfl
  · have hle : fractions ≤ m := Nat.not_lt.1 hlt
    have hdiv : m / fractions = 1 := by
      rw [Nat.div_eq_iff (by decide)]
      omega
    have hmod : m % fractions = m - fractions := by
      rw [Nat.mod_eq_sub_mod hle, Nat.mod_eq_of_lt (by omega)]
    rw [hdiv, hmod]
    show (fractions + (m - fractions)) * 1 = m
    omega

/-- 53 bits in front of zeros are a magnitude. -/
theorem exists_units_eq {m : Nat} (h : m < 2 * fractions) (shift : Nat) :
    ∃ code, units code = m * 2 ^ shift := by
  induction shift generalizing m with
  | zero => exact ⟨m, by rw [units_of_lt h, Nat.pow_zero, Nat.mul_one]⟩
  | succ shift ih =>
    by_cases hlt : m < fractions
    · -- one of the zeros still goes into the 53 bits
      obtain ⟨code, hcode⟩ := ih (m := 2 * m) (by omega)
      refine ⟨code, ?_⟩
      rw [hcode, Nat.pow_succ', ← Nat.mul_assoc, Nat.mul_comm m 2]
    · obtain ⟨fraction, rfl⟩ := Nat.exists_eq_add_of_le (Nat.not_lt.1 hlt)
      have hfraction : fraction < fractions := by omega
      have hpos : 0 < fractions := by decide
      refine ⟨(shift + 2) * fractions + fraction, ?_⟩
      have hdiv : ((shift + 2) * fractions + fraction) / fractions = shift + 2 := by
        rw [Nat.mul_comm, Nat.mul_add_div hpos, Nat.div_eq_of_lt hfraction, Nat.add_zero]
      have hmod : ((shift + 2) * fractions + fraction) % fractions = fraction := by
        rw [Nat.mul_add_mod', Nat.mod_eq_of_lt hfraction]
      have hge : ¬ (shift + 2) * fractions + fraction < fractions := by
        rw [Nat.add_mul]
        omega
      rw [units, if_neg hge, hdiv, hmod]
      rfl

/-- The code nearest to a whole number. -/
def codeOf (n : Nat) : Nat := nearestCode (n * unitsPerOne) 1

theorem units_codeOf_mul_two_pow {m : Nat} (h : m < 2 * fractions) (shift : Nat) :
    units (codeOf (m * 2 ^ shift)) = m * 2 ^ shift * unitsPerOne := by
  obtain ⟨bits, -, hone⟩ := exists_unitsPerOne_eq
  obtain ⟨code, hcode⟩ := exists_units_eq h (shift + bits)
  have hunits : m * 2 ^ shift * unitsPerOne = units code := by
    rw [hcode, hone, Nat.pow_add, Nat.mul_assoc]
  have hkeep := nearestCode_units code Nat.one_pos
  rw [Nat.mul_one] at hkeep
  rw [codeOf, hunits, hkeep]

/-- Up to 2⁵³ every whole number is a magnitude. -/
theorem units_codeOf {n : Nat} (h : n ≤ 2 * fractions) : units (codeOf n) = n * unitsPerOne := by
  rcases Nat.lt_or_eq_of_le h with hlt | rfl
  · have hunits := units_codeOf_mul_two_pow hlt 0
    rwa [Nat.pow_zero, Nat.mul_one] at hunits
  · have hunits := units_codeOf_mul_two_pow (m := fractions) (by decide) 1
    rwa [Nat.pow_one, Nat.mul_comm fractions 2] at hunits

theorem codeOf_zero : codeOf 0 = 0 := by
  rw [codeOf, Nat.zero_mul]
  exact nearestCode_of_two_mul_lt Nat.one_pos

theorem codeOf_ne_zero {n : Nat} (hne : n ≠ 0) (h : n ≤ 2 * fractions) : codeOf n ≠ 0 := by
  intro hzero
  have hunits := units_codeOf h
  rw [hzero, units_zero] at hunits
  exact Nat.mul_ne_zero hne unitsPerOne_pos.ne' hunits.symm

theorem codeOf_mono : Monotone codeOf := fun _ _ h =>
  nearestCode_le_of_le Nat.one_pos (Nat.mul_le_mul_right unitsPerOne h)

/-- Another number with the same code is odd, and above 2⁵³. -/
theorem eq_of_codeOf_eq {n k : Nat} (hn : n ≤ 2 * fractions) (hk : k ≤ 2 * fractions ∨ Even k)
    (h : codeOf k = codeOf n) : k = n := by
  have hunits := units_codeOf hn
  by_cases hle : k ≤ 2 * fractions
  · have hsame := units_codeOf hle
    rw [h, hunits] at hsame
    exact (Nat.eq_of_mul_eq_mul_right unitsPerOne_pos hsame).symm
  · -- the next even number has a code of its own
    exfalso
    obtain ⟨half, rfl⟩ := hk.resolve_left hle
    have hnext : (fractions + 1) * 2 ^ 1 ≤ half + half := by omega
    have hcode := units_codeOf_mul_two_pow (m := fractions + 1) (by decide) 1
    have hmono := units_strictMono.monotone (codeOf_mono hnext)
    rw [h, hunits, hcode] at hmono
    have := Nat.le_of_mul_le_mul_right hmono unitsPerOne_pos
    omega

theorem codeOf_lt_codeLimit {n : Nat} (h : n ≤ 2 * fractions) : codeOf n < codeLimit := by
  obtain ⟨bits, hbits, hone⟩ := exists_unitsPerOne_eq
  have hlog : (units codeLimit).log2 = 52 + (codeLimit / fractions - 1) := log2_units (by decide)
  have hexponent : codeLimit / fractions - 1 = 2046 := by decide
  have hne : units codeLimit ≠ 0 := by
    intro hzero
    rw [hzero, hexponent] at hlog
    exact absurd hlog (by decide)
  have hpow : 2 ^ 53 * 2 ^ bits < 2 ^ (units codeLimit).log2 := by
    rw [← Nat.pow_add]
    exact Nat.pow_lt_pow_right (by decide) (by omega)
  have htop : 2 * fractions * unitsPerOne < units codeLimit := by
    have hfractions : 2 * fractions = 2 ^ 53 := by decide
    rw [hfractions, hone]
    exact hpow.trans_le (Nat.log2_self_le hne)
  refine units_strictMono.lt_iff_lt.1 (lt_of_le_of_lt ?_ htop)
  rw [units_codeOf h]
  exact Nat.mul_le_mul_right unitsPerOne h

/-- A whole number is read as itself. -/
theorem exists_ofDecimal_whole {n : Int} (h : n.natAbs ≤ 2 * fractions) :
    ∃ code : Fin codeLimit, code.val = codeOf n.natAbs ∧
      ofDecimal ⟨n < 0, n.natAbs, 0⟩ = finite (n < 0) code ∧
      (finite (n < 0) code).toRat? = some (n : ℚ) := by
  refine ⟨⟨codeOf n.natAbs, codeOf_lt_codeLimit h⟩, rfl, ?_, ?_⟩
  · have hunits := ofDecimal_eq_ofUnits (n < 0) n.natAbs 0 0
    rw [Nat.pow_zero, Nat.mul_one] at hunits
    exact hunits.trans (dif_pos (codeOf_lt_codeLimit h))
  · have hone : (unitsPerOne : ℚ) ≠ 0 := by exact_mod_cast unitsPerOne_pos.ne'
    have hworth : (units (codeOf n.natAbs) : ℚ) / unitsPerOne = n.natAbs := by
      rw [units_codeOf h, Nat.cast_mul, mul_div_cancel_right₀ _ hone]
    rw [toRat?, hworth, signedRat, Nat.cast_natAbs, Int.cast_abs]
    split_ifs with hneg
    · rw [abs_of_neg (by simpa using hneg), neg_neg]
    · rw [abs_of_nonneg (by simpa using hneg)]

/-! ### The digits of whole numbers -/

/-- A point of the grid itself is kept, even if the next one passes too. -/
theorem gridPoint?_mul {hit : Nat → Nat → Bool} {m j : Nat} (h : hit m j = true) :
    gridPoint? hit (m * 10 ^ j) j = some m := by
  have hpos : 0 < 10 ^ j := Nat.pow_pos (by decide)
  have hlow : m * 10 ^ j / Nat.pow 10 j = m := Nat.mul_div_cancel m hpos
  have hround : roundHalfEven (m * 10 ^ j) (Nat.pow 10 j) = m := roundHalfEven_mul_left hpos m
  simp only [gridPoint?, hlow, hround, h, if_true]
  split_ifs <;> rfl

/-- The search ends at the number sought itself, if on the coarser grids nothing else passes. -/
theorem coarsestFrom_exact {hit : Nat → Nat → Bool} {m base start : Nat} (hstart : base ≤ start)
    (hbase : hit m base = true)
    (hcoarse : ∀ k j, base < j → hit k j = true → k * 10 ^ j = m * 10 ^ base) :
    ∃ k zeros, coarsestFrom hit (m * 10 ^ base) start = (k, base + zeros) ∧ k * 10 ^ zeros = m := by
  induction start, hstart using Nat.le_induction with
  | base =>
    refine ⟨m, 0, ?_, Nat.mul_one m⟩
    cases base with
    | zero => rw [coarsestFrom, Nat.pow_zero, Nat.mul_one]
    | succ base => rw [coarsestFrom, gridPoint?_mul hbase]
  | succ start hle ih =>
    rw [coarsestFrom]
    split
    · next k hpoint =>
      have hexact := hcoarse k (start + 1) (by omega) (hit_of_gridPoint? hpoint)
      obtain ⟨more, rfl⟩ := Nat.exists_eq_add_of_le hle
      refine ⟨k, more + 1, rfl, ?_⟩
      have hpos : 0 < 10 ^ base := Nat.pow_pos (by decide)
      refine Nat.eq_of_mul_eq_mul_right hpos ?_
      rw [← hexact, Nat.mul_assoc, ← Nat.pow_add, Nat.add_comm (more + 1), Nat.add_assoc]
    · exact ih

theorem isReadBack_iff {places : Nat} (hplaces : 10 ^ places = fives * unitsPerOne)
    (code k zeros : Nat) :
    isReadBack code k (places + zeros) = true ↔ codeOf (k * 10 ^ zeros) = code := by
  have hscale : k * 10 ^ (places + zeros) = k * 10 ^ zeros * unitsPerOne * fives := by
    rw [Nat.pow_add, hplaces]
    ring
  have hcode : nearestCode (k * 10 ^ (places + zeros)) fives = codeOf (k * 10 ^ zeros) := by
    have hexpand := nearestCode_mul_mul_right fives_pos (k * 10 ^ zeros * unitsPerOne) 1
    rwa [Nat.one_mul, ← hscale] at hexpand
  rw [← hcode, isReadBack, beq_iff_eq]
  rfl

/-- The shortest digits of a whole number are its own digits without the zeros at the end. -/
theorem shortest_whole {n : Nat} (hne : n ≠ 0) (h : n ≤ 2 * fractions) :
    ∃ k zeros, shortest (codeOf n) = (k, 1074 + zeros) ∧ k * 10 ^ zeros = n := by
  obtain ⟨places, rfl, hten⟩ := exists_ten_pow_eq
  generalize hplaces : 1074 = places at hten ⊢
  have hunits := units_codeOf h
  have hpoint : units (codeOf n) * fives = n * 10 ^ places := by
    rw [hunits, hten]
    ring
  rw [shortest, hpoint]
  refine coarsestFrom_exact ?_ ?_ ?_
  · -- the search starts at the whole numbers or before
    have hlog : 1074 ≤ (units (codeOf n)).log2 := by
      obtain ⟨bits, hbits, hone⟩ := exists_unitsPerOne_eq
      rw [hunits, hone, ← hbits, Nat.le_log2 (Nat.mul_ne_zero hne (Nat.two_pow_pos bits).ne')]
      exact Nat.le_mul_of_pos_left _ (Nat.pos_of_ne_zero hne)
    omega
  · have hread := isReadBack_iff hten (codeOf n) n 0
    rw [Nat.add_zero, Nat.pow_zero, Nat.mul_one] at hread
    exact hread.2 rfl
  · intro k j hlt hread
    obtain ⟨zeros, rfl⟩ := Nat.exists_eq_add_of_lt hlt
    rw [Nat.add_assoc, isReadBack_iff hten] at hread
    have heven : Even (k * 10 ^ (zeros + 1)) := by
      rw [Nat.pow_succ]
      exact Even.mul_left (Even.mul_left (by decide) _) _
    rw [← eq_of_codeOf_eq h (Or.inr heven) hread]
    ring

/-! ### The text of whole numbers -/

/-- A factor of ten is a zero at the end. -/
theorem numeral_mul_ten_pow {k : Nat} (hk : k ≠ 0) (zeros : Nat) :
    numeral (k * 10 ^ zeros) = numeral k ++ List.replicate zeros '0' := by
  induction zeros with
  | zero => rw [Nat.pow_zero, Nat.mul_one, List.replicate_zero, List.append_nil]
  | succ zeros ih =>
    have hpos : 0 < k * 10 ^ zeros :=
      Nat.mul_pos (Nat.pos_of_ne_zero hk) (Nat.pow_pos (by decide))
    have hlast := Nat.toDigits_append_toDigits (b := 10) (d := 0) (by decide) hpos (by decide)
    rw [numeral, Nat.pow_succ, ← Nat.mul_assoc, Nat.mul_comm _ 10, ← Nat.add_zero (10 * _), ← hlast,
      List.replicate_succ', ← List.append_assoc, ← ih]
    rfl

/-- Digits with zeros behind them are laid out in full, up to sixteen in all. -/
theorem layOut_whole {digits : Text} (hne : digits ≠ []) {zeros : Nat}
    (h : digits.length + zeros ≤ 16) :
    layOut digits (digits.length + zeros : Nat) =
      digits ++ List.replicate zeros '0' ++ ['.', '0'] := by
  obtain ⟨place, hplace⟩ : ∃ place, digits.length + zeros = place + 1 :=
    Nat.exists_eq_succ_of_ne_zero (by have := List.length_pos_of_ne_nil hne; omega)
  have hzeros : place + 1 - digits.length = zeros := by omega
  have hrange : (decide ((-4 : Int) < (place + 1 : Nat)) &&
      decide (((place + 1 : Nat) : Int) ≤ 16)) = true := by
    rw [Bool.and_eq_true, decide_eq_true_eq, decide_eq_true_eq]
    omega
  rw [hplace, layOut, if_pos hrange]
  show (if place + 1 < digits.length then _ else _) = _
  rw [if_neg (by omega), hzeros]

/-- **A whole number is written in full**, with a point and a zero behind it. -/
theorem magnitudeText_whole {n : Nat} (h : n ≤ 2 * fractions) :
    magnitudeText (codeOf n) = numeral n ++ ['.', '0'] := by
  by_cases hne : n = 0
  · rw [hne, codeOf_zero, magnitudeText_zero]
    rfl
  · obtain ⟨k, zeros, hshortest, rfl⟩ := shortest_whole hne h
    have hk : k ≠ 0 := fun hzero => hne (by rw [hzero, Nat.zero_mul])
    -- 2⁵³ has 16 digits
    have hlength : (numeral k).length + zeros ≤ 16 := by
      have hdigits : (numeral (k * 10 ^ zeros)).length ≤ 16 :=
        (Nat.length_toDigits_le_iff (by decide) (by decide)).2 (lt_of_le_of_lt h (by decide))
      rwa [numeral_mul_ten_pow hk, List.length_append, List.length_replicate] at hdigits
    have hplace : ((numeral k).length + (1074 + zeros : Nat) - 1074 : Int) =
        ((numeral k).length + zeros : Nat) := by omega
    rw [magnitudeText_of_ne_zero (codeOf_ne_zero hne h) hshortest, hplace,
      layOut_whole (isDigits_numeral k).ne_nil hlength, numeral_mul_ten_pow hk]

end Binary64

end SearchFilter
