/-!
# Binary floating-point numbers of 64 bits

A finite magnitude is a natural number, its code: codes are numbered from zero in the order of the
magnitudes, so that comparing magnitudes is comparing codes, and a carry out of the fraction moves
to the next exponent by itself. Every magnitude is a whole number of units of 2⁻¹⁰⁷⁴, which makes
rounding a division of naturals.

* `nearestCode_of_lt`: whole numbers of units below 2⁵³ keep their value.
* `roundHalfEven_mul_left`: a quotient that is a whole number is rounded to itself.
-/

namespace SearchFilter

/-- The number of codes of finite magnitudes, 2047 · 2⁵². -/
def codeLimit : Nat := 0x7FF0000000000000

/-- A 64-bit binary floating-point number; zeros and infinities carry a sign. -/
inductive Binary64 where
  | finite (negative : Bool) (code : Fin codeLimit)
  | infinite (negative : Bool)
  | nan
  deriving DecidableEq

namespace Binary64

/-- Whether a number is neither infinite nor undefined. -/
def isFinite : Binary64 → Bool
  | finite _ _ => true
  | _ => false

/-- The zero of either sign. -/
def zero (negative : Bool) : Binary64 := finite negative ⟨0, by decide⟩

/-- The number of fractions that share an exponent, 2⁵². -/
def fractions : Nat := 0x10000000000000

/-- The magnitude with a given code, in units of 2⁻¹⁰⁷⁴. The low 52 bits of a code are
    the fraction; above them stands the exponent, which is zero for the magnitudes
    below 2⁵² units and doubles the unit with each step from two on. -/
def units (code : Nat) : Nat :=
  if code < fractions then code
  else (fractions + code % fractions) * Nat.pow 2 (code / fractions - 1)

/-! ### Rounding -/

/-- The quotient `n / d` rounded to the nearest natural number, a half to the even
    neighbour. -/
def roundHalfEven (n d : Nat) : Nat :=
  let low := n / d
  let twice := 2 * (n % d)
  if twice < d then low else if d < twice then low + 1 else low + low % 2

/-- The code nearest to `n / d` units. The quotient is rounded to 53 significant bits,
    or to whole units where it has fewer; the bits dropped are counted in the exponent.
    A result of `codeLimit` or more stands for a magnitude that overflows. -/
def nearestCode (n d : Nat) : Nat :=
  let shift := (n / d).log2 - 52
  -- a quotient that rounds up to 2⁵³ carries into the exponent by itself
  shift * fractions + roundHalfEven n (d * Nat.pow 2 shift)

/-- The number nearest to `n / d` units of 2⁻¹⁰⁷⁴, infinite if the magnitude overflows. -/
def ofUnits (negative : Bool) (n d : Nat) : Binary64 :=
  let code := nearestCode n d
  if h : code < codeLimit then finite negative ⟨code, h⟩ else infinite negative

theorem roundHalfEven_mul_left {d : Nat} (hd : 0 < d) (n : Nat) : roundHalfEven (n * d) d = n := by
  simp [roundHalfEven, Nat.mul_div_cancel n hd, hd]

/-- A whole number of units below 2⁵³ is its own code. -/
theorem nearestCode_of_lt {n : Nat} (h : n < 2 * fractions) : nearestCode n 1 = n := by
  have hshift : n.log2 - 52 = 0 := by
    by_cases hn : n = 0
    · simp [hn]
    · have hlog : n.log2 < 53 := (Nat.log2_lt hn).2 h
      omega
  simpa [nearestCode, hshift] using roundHalfEven_mul_left (Nat.one_pos) n

/-! ### Arithmetic -/

/-- The difference of two numbers, rounded. A difference of equal numbers is a positive
    zero, except that `-0 - 0` is negative. -/
def sub : Binary64 → Binary64 → Binary64
  | finite s x, finite t y =>
    let difference :=
      (if s then -(units x : Int) else units x) - (if t then -(units y : Int) else units y)
    if difference = 0 then zero (s && !t && x.val == 0)
    else ofUnits (difference < 0) difference.natAbs 1
  | infinite s, infinite t => if s = t then nan else infinite s
  | infinite s, finite _ _ => infinite s
  | finite _ _, infinite t => infinite (!t)
  | _, _ => nan

/-- A number times a positive whole number, rounded. -/
def scale (factor : Nat) : Binary64 → Binary64
  | finite s x => ofUnits s (factor * units x) 1
  | x => x

/-- The whole part of a number that is not negative; zero for every other number. -/
def wholePart : Binary64 → Nat
  | finite false x => units x / Nat.pow 2 1074
  | _ => 0

end Binary64

end SearchFilter
