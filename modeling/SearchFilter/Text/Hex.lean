import SearchFilter.Text.Basic

/-!
# Hexadecimal digits in lower case

Digits, and codes of a fixed width.

* `length_hexCode`: a code has its width.
-/

namespace SearchFilter

namespace Text

/-- The hexadecimal digit of a value below sixteen. -/
def hexDigit (n : Nat) : Char :=
  if n < 10 then Char.ofNat (0x30 + n) else Char.ofNat (0x57 + n)

/-- The last `width` hexadecimal digits of a number, the highest first. -/
def hexCode : (width n : Nat) → Text
  | 0, _ => []
  | width + 1, n => hexCode width (n / 16) ++ [hexDigit (n % 16)]

@[simp] theorem length_hexCode (width n : Nat) : (hexCode width n).length = width := by
  induction width generalizing n with
  | zero => rfl
  | succ width ih => simp [hexCode, ih]

end Text

end SearchFilter
