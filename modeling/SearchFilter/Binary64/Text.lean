import SearchFilter.Binary64.Decimal

/-!
# The written form of a binary number

A number is written by its shortest digits, laid out positionally in the middle range and with an
exponent outside it.
-/

namespace SearchFilter

namespace Binary64

/-- The decimal digits of a natural number. -/
def numeral (n : Nat) : Text := Nat.toDigits 10 n

/-- A natural number in at least two digits. -/
def twoDigits (n : Nat) : Text := if n < 10 then '0' :: numeral n else numeral n

/-- Digits with the decimal point behind the first `point` of them. A whole number keeps
    a zero behind its point, a number below one has a zero in front of it. -/
def positional (digits : Text) (point : Int) : Text :=
  match point with
  | .negSucc gap => ['0', '.'] ++ List.replicate (gap + 1) '0' ++ digits
  | .ofNat 0 => ['0', '.'] ++ digits
  | .ofNat place =>
    if place < digits.length then digits.take place ++ '.' :: digits.drop place
    else digits ++ List.replicate (place - digits.length) '0' ++ ['.', '0']

/-- Digits with the point behind the first one and an exponent, which has a sign and at
    least two digits. A single digit goes without a point. -/
def scientific (digits : Text) (exponent : Int) : Text :=
  let mantissa := if digits.length ≤ 1 then digits else digits.take 1 ++ '.' :: digits.drop 1
  mantissa ++ 'e' :: (if exponent < 0 then '-' else '+') :: twoDigits exponent.natAbs

/-- Digits whose decimal point stands behind the first `point` of them. The form is
    positional from 10⁻⁴ up to, not including, 10¹⁶. -/
def layOut (digits : Text) (point : Int) : Text :=
  if -4 < point && point ≤ 16 then positional digits point else scientific digits (point - 1)

/-- The written form of the magnitude with a given code. -/
def magnitudeText (code : Nat) : Text :=
  if code = 0 then layOut ['0'] 1
  else
    let (m, j) := shortest code
    let digits := numeral m
    -- place 1074 is that of the whole numbers
    layOut digits (digits.length + j - 1074)

/-- The words for the numbers that have no digits. -/
structure Words where
  infinity : Text
  nan : Text

/-- The words used in the display of values. -/
def Words.display : Words := ⟨"inf".toList, "nan".toList⟩

/-- The words used in JSON text. -/
def Words.json : Words := ⟨"Infinity".toList, "NaN".toList⟩

/-- A text behind a minus sign if the number is negative. -/
def signed (negative : Bool) (text : Text) : Text := if negative then '-' :: text else text

/-- The written form of a number. -/
def text (words : Words) : Binary64 → Text
  | finite negative code => signed negative (magnitudeText code)
  | infinite negative => signed negative words.infinity
  | nan => words.nan

end Binary64

end SearchFilter
