import SearchFilter.Binary64.Basic
import SearchFilter.Decimal

/-!
# Decimal to binary and back

Reading rounds correctly; writing gives the fewest digits that read back as the same number.

* `hit_coarsestFrom`: the digits that are chosen pass the test that they were sought for.
-/

namespace SearchFilter

namespace Binary64

/-! ### Reading -/

/-- The number nearest to a decimal. An exponent above 309 overflows whatever the
    coefficient, unless that is zero; a coefficient of `b` bits with an exponent below
    `-331 - b` is less than half a unit. Neither is worth an exact computation. -/
def ofDecimal (decimal : Decimal) : Binary64 :=
  let { negative, coefficient, exponent } := decimal
  if coefficient = 0 then zero negative
  else if 309 < exponent then infinite negative
  else if exponent + coefficient.log2 + 331 < 0 then zero negative
  else
    match exponent with
    | .ofNat up => ofUnits negative (coefficient * Nat.pow 10 up * Nat.pow 2 1074) 1
    | .negSucc down => ofUnits negative (coefficient * Nat.pow 2 1074) (Nat.pow 10 (down + 1))

/-! ### The fewest digits

The decimal grid of place `j` is the multiples of 10^(j - 1074). Every finite magnitude
lies on the grid of place zero, where it is `units code * fives`. The search is stated
for any test of the grid points, `hit m j`. -/

/-- The quotient of the finest decimal grid and the unit, 10¹⁰⁷⁴ / 2¹⁰⁷⁴. -/
def fives : Nat := Nat.pow 5 1074

/-- The point of the grid of place `j` next to `w` points of the finest grid that passes
    the test, if there is one: of two the nearer, of two equally near the even one. -/
def gridPoint? (hit : Nat → Nat → Bool) (w j : Nat) : Option Nat :=
  let low := w / Nat.pow 10 j
  if hit low j then
    if hit (low + 1) j then some (roundHalfEven w (Nat.pow 10 j)) else some low
  else if hit (low + 1) j then some (low + 1)
  else none

/-- The first grid point found on the way from place `j` to the finest grid, and its
    place. -/
def coarsestFrom (hit : Nat → Nat → Bool) (w : Nat) : Nat → Nat × Nat
  | 0 => (w, 0)
  | j + 1 =>
    match gridPoint? hit w (j + 1) with
    | some m => (m, j + 1)
    | none => coarsestFrom hit w j

/-- Whether the point `m` of the grid of place `j` rounds to a code. -/
def isReadBack (code m j : Nat) : Bool := nearestCode (m * Nat.pow 10 j) fives == code

/-- The digits and the place of the shortest decimal that reads back as a code. The
    search starts at a grid wider than the magnitude: 0.30103 is the logarithm of two,
    rounded up. -/
def shortest (code : Nat) : Nat × Nat :=
  let size := (units code).log2
  coarsestFrom (isReadBack code) (units code * fives) (size * 30103 / 100000 + 752)

/-- Rounding to a grid gives one of the two neighbours. -/
theorem roundHalfEven_eq_or (n d : Nat) :
    roundHalfEven n d = n / d ∨ roundHalfEven n d = n / d + 1 := by
  simp only [roundHalfEven]
  split
  · exact .inl rfl
  · split
    · exact .inr rfl
    · omega

theorem hit_of_gridPoint? {hit : Nat → Nat → Bool} {w j m : Nat}
    (h : gridPoint? hit w j = some m) : hit m j = true := by
  simp only [gridPoint?] at h
  split at h
  · next hlow =>
    split at h
    · next hhigh =>
      obtain rfl := Option.some.inj h
      rcases roundHalfEven_eq_or w (Nat.pow 10 j) with hround | hround <;> rw [hround] <;>
        assumption
    · obtain rfl := Option.some.inj h
      exact hlow
  · split at h
    · next hhigh =>
      obtain rfl := Option.some.inj h
      exact hhigh
    · simp at h

/-- The point found passes the test, if the one on the finest grid does. -/
theorem hit_coarsestFrom {hit : Nat → Nat → Bool} {w : Nat} (hfinest : hit w 0 = true) (j : Nat) :
    hit (coarsestFrom hit w j).1 (coarsestFrom hit w j).2 = true := by
  induction j with
  | zero => exact hfinest
  | succ j ih =>
    unfold coarsestFrom
    split
    · next hfound => exact hit_of_gridPoint? hfound
    · exact ih

end Binary64

end SearchFilter
