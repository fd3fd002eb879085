import SearchFilter.Text.Digit

/-!
# Decimal numbers as they are written

A sign, digits with an optional point, and an optional exponent. The digits may be those of any
script.

* `takeDigits_append`: the digits that are taken and the rest make up the text.
-/

namespace SearchFilter

/-- The number `coefficient · 10 ^ exponent` with a sign of its own, so that zero has
    two forms. -/
structure Decimal where
  negative : Bool
  coefficient : Nat
  exponent : Int
  deriving DecidableEq

namespace Decimal

/-- The values of the digits at the start of a text, and the rest of it. -/
def takeDigits : Text → List Nat × Text
  | [] => ([], [])
  | c :: text =>
    match Text.digitValue? c with
    | some d => (d :: (takeDigits text).1, (takeDigits text).2)
    | none => ([], c :: text)

/-- The number that a list of decimal digits denotes. -/
def ofDigits (digits : List Nat) : Nat := digits.foldl (fun value d => 10 * value + d) 0

/-- A sign at the start of a text (true for minus), and the rest of it. -/
def takeSign : Text → Bool × Text
  | '-' :: text => (true, text)
  | '+' :: text => (false, text)
  | text => (false, text)

/-- The digits in front of and behind the point, and the rest of the text. Digits must
    stand in front of the point or behind it. -/
def takeMantissa? (text : Text) : Option (List Nat × List Nat × Text) :=
  let (whole, rest) := takeDigits text
  match rest with
  | '.' :: behind =>
    let (part, rest) := takeDigits behind
    if whole.isEmpty && part.isEmpty then none else some (whole, part, rest)
  | _ => if whole.isEmpty then none else some (whole, [], rest)

/-- The exponent at the start of a text, zero if there is none, and the rest of the
    text. An exponent mark must be followed by digits. -/
def takeExponent? : Text → Option (Int × Text)
  | c :: text =>
    if c = 'e' || c = 'E' then
      let (negative, text) := takeSign text
      let (digits, rest) := takeDigits text
      if digits.isEmpty then none
      else some (if negative then -(ofDigits digits : Int) else ofDigits digits, rest)
    else some (0, c :: text)
  | [] => some (0, [])

/-- The decimal number at the start of a text, and the rest of the text. -/
def take? (text : Text) : Option (Decimal × Text) := do
  let (negative, text) := takeSign text
  let (whole, part, text) ← takeMantissa? text
  let (exponent, rest) ← takeExponent? text
  return (⟨negative, ofDigits (whole ++ part), exponent - part.length⟩, rest)

/-- The decimal number that a whole text writes. -/
def ofText? (text : Text) : Option Decimal :=
  match take? text with
  | some (decimal, []) => some decimal
  | _ => none

/-- A text is the characters of its leading digits followed by the rest. -/
theorem takeDigits_append (text : Text) :
    ∃ front, text = front ++ (takeDigits text).2 ∧
      front.map Text.digitValue? = (takeDigits text).1.map some := by
  induction text with
  | nil => exact ⟨[], by simp [takeDigits]⟩
  | cons c text ih =>
    cases hdigit : Text.digitValue? c with
    | none => exact ⟨[], by simp [takeDigits, hdigit]⟩
    | some d =>
      obtain ⟨front, hwhole, hvalues⟩ := ih
      refine ⟨c :: front, ?_, ?_⟩
      · simp only [takeDigits, hdigit, List.cons_append]
        rw [← hwhole]
      · simp [takeDigits, hdigit, hvalues]

end Decimal

end SearchFilter
