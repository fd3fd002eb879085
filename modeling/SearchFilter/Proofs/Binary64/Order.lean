import Mathlib.Order.Monotone.Basic
import SearchFilter.Proofs.Binary64.Rounding

/-!
# The order of binary numbers

Rounding never turns two quotients around: on one grid it is the remainders that are compared, and
between a finer grid and a coarser one stands a power of two, which both grids have. Since
magnitudes are kept by rounding, they come in the order of their codes.

* `nearestCode_mono`: the greater quotient has no smaller code.
* `units_strictMono`: the greater code is the greater magnitude.
-/

namespace SearchFilter

namespace Binary64

variable {n m d : Nat}

/-! ### One grid -/

theorem roundHalfEven_le_of_le (h : n ≤ m) (d : Nat) : roundHalfEven n d ≤ roundHalfEven m d := by
  have hdiv : n / d ≤ m / d := Nat.div_le_div_right h
  rcases Nat.lt_or_eq_of_le hdiv with hlt | heq
  · -- a point of the grid stands between the two
    have hround := roundHalfEven_eq_or n d
    have hlow := div_le_roundHalfEven m d
    omega
  · have hn := Nat.div_add_mod n d
    have hm := Nat.div_add_mod m d
    rw [← heq] at hm
    have hmod : n % d ≤ m % d := by omega
    simp only [roundHalfEven, ← heq]
    split_ifs <;> omega

/-- What is no more than a whole number is rounded to no more. -/
theorem roundHalfEven_le {k : Nat} (hd : 0 < d) (h : n ≤ k * d) : roundHalfEven n d ≤ k :=
  (roundHalfEven_le_of_le h d).trans_eq (roundHalfEven_mul_left hd k)

/-- What is no less than a whole number is rounded to no less. -/
theorem le_roundHalfEven {k : Nat} (hd : 0 < d) (h : k * d ≤ n) : k ≤ roundHalfEven n d :=
  (roundHalfEven_mul_left hd k).symm.trans_le (roundHalfEven_le_of_le h d)

/-! ### Grids that grow -/

/-- The bits dropped from a quotient, those that it has beyond 53. -/
def dropped (n d : Nat) : Nat := (n / d).log2 - 52

theorem nearestCode_eq (n d : Nat) :
    nearestCode n d = dropped n d * fractions + roundHalfEven n (d * 2 ^ dropped n d) := rfl

theorem dropped_le_of_le (h : n ≤ m) (d : Nat) : dropped n d ≤ dropped m d := by
  have hdiv : n / d ≤ m / d := Nat.div_le_div_right h
  by_cases hzero : n / d = 0
  · rw [dropped, hzero]
    exact Nat.zero_le _
  · have hne : m / d ≠ 0 := ((Nat.pos_of_ne_zero hzero).trans_le hdiv).ne'
    have hlog : (n / d).log2 ≤ (m / d).log2 :=
      (Nat.le_log2 hne).2 ((Nat.log2_self_le hzero).trans hdiv)
    rw [dropped, dropped]
    omega

/-- With the bits dropped, a quotient is worth less than 2⁵³. -/
theorem lt_of_dropped (hd : 0 < d) (n : Nat) : n < 2 * fractions * (d * 2 ^ dropped n d) := by
  have hlog : n / d < 2 ^ (53 + dropped n d) :=
    Nat.lt_log2_self.trans_le (Nat.pow_le_pow_right (by decide) (by rw [dropped]; omega))
  rw [Nat.div_lt_iff_lt_mul hd, Nat.pow_add] at hlog
  have hfractions : 2 * fractions = 2 ^ 53 := by decide
  rw [hfractions, Nat.mul_comm d, ← Nat.mul_assoc]
  exact hlog

/-- With some bits dropped, a quotient is worth 2⁵² at least. -/
theorem le_of_dropped (hd : 0 < d) (h : dropped n d ≠ 0) :
    fractions * (d * 2 ^ dropped n d) ≤ n := by
  have hne : n / d ≠ 0 := by
    intro hzero
    rw [dropped, hzero] at h
    exact h rfl
  have hlog : 52 + dropped n d = (n / d).log2 := by
    rw [dropped] at h ⊢
    omega
  have hle : 2 ^ 52 * 2 ^ dropped n d ≤ n / d := by
    rw [← Nat.pow_add, hlog]
    exact Nat.log2_self_le hne
  rw [Nat.le_div_iff_mul_le hd] at hle
  rw [fractions_eq, Nat.mul_comm d, ← Nat.mul_assoc]
  exact hle

theorem nearestCode_le_of_le (hd : 0 < d) (h : n ≤ m) : nearestCode n d ≤ nearestCode m d := by
  have hpos : ∀ shift, 0 < d * 2 ^ shift := fun shift => Nat.mul_pos hd (Nat.two_pow_pos shift)
  rw [nearestCode_eq, nearestCode_eq]
  rcases Nat.lt_or_eq_of_le (dropped_le_of_le h d) with hlt | heq
  · -- the first code ends where the exponent of the second one begins
    have hfirst := roundHalfEven_le (hpos _) (lt_of_dropped hd n).le
    have hsecond := le_roundHalfEven (hpos _) (le_of_dropped hd (Nat.ne_zero_of_lt hlt))
    have hstep : (dropped n d + 1) * fractions ≤ dropped m d * fractions :=
      Nat.mul_le_mul_right fractions hlt
    rw [Nat.succ_mul] at hstep
    omega
  · rw [← heq]
    exact Nat.add_le_add_left (roundHalfEven_le_of_le h _) _

/-- **Rounding is monotone**: quotients are compared multiplied out. -/
theorem nearestCode_mono {n' d' : Nat} (hd : 0 < d) (hd' : 0 < d') (h : n * d' ≤ n' * d) :
    nearestCode n d ≤ nearestCode n' d' :=
  calc nearestCode n d = nearestCode (n * d') (d * d') := (nearestCode_mul_mul_right hd' n d).symm
    _ ≤ nearestCode (n' * d) (d * d') := nearestCode_le_of_le (Nat.mul_pos hd hd') h
    _ = nearestCode (n' * d) (d' * d) := by rw [Nat.mul_comm d d']
    _ = nearestCode n' d' := nearestCode_mul_mul_right hd n' d'

/-! ### Magnitudes -/

/-- The magnitudes come in the order of their codes. -/
theorem units_strictMono : StrictMono units := by
  intro code next hlt
  by_contra hle
  -- rounding keeps both, and does not turn them around
  have hcodes := nearestCode_le_of_le Nat.one_pos (Nat.not_lt.1 hle)
  have hcode := nearestCode_units code Nat.one_pos
  have hnext := nearestCode_units next Nat.one_pos
  rw [Nat.mul_one] at hcode hnext
  omega

end Binary64

end SearchFilter
