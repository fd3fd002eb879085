import SearchFilter.Binary64.Decimal
import SearchFilter.Failure
import SearchFilter.Policy.Basic
import SearchFilter.Text.Blank
import SearchFilter.Text.LowerCase
import SearchFilter.Value.Basic

/-!
# Raw values

Raw values become numbers, truth values or strings. Classification and conversion are two steps: a
raw value is first taken as a number or a truth value for what it looks like, and then has to be one
as a whole.

* `ofRaw_anchored`: with anchored matching a raw value that is no literal stays a string.
-/

namespace SearchFilter

namespace Value

/-! ### Classification -/

/-- Whether a text is digits, or digits, a point and digits. -/
def isPlainNumber (text : Text) : Bool :=
  let (whole, rest) := Decimal.takeDigits text
  !whole.isEmpty &&
    match rest with
    | [] => true
    | '.' :: behind =>
      let (part, rest) := Decimal.takeDigits behind
      !part.isEmpty && rest.isEmpty
    | _ => false

/-- Whether a text is a number literal: a plain number, possibly behind a minus sign. -/
def isNumberLiteral : Text → Bool
  | '-' :: text => isPlainNumber text
  | text => isPlainNumber text

/-- Whether a text is a truth literal. -/
def isTruthLiteral (text : Text) : Bool := text == "true".toList || text == "false".toList

/-- Whether a raw value is taken as a number. A number literal occurs in a text exactly
    if a digit does, for a digit by itself is one. -/
def looksNumeric : Matching → Text → Bool
  | .unanchored, rawValue => rawValue.any Text.isDigit
  | .anchored, rawValue => isNumberLiteral rawValue

/-- Whether a raw value is taken as a truth value. -/
def looksTrue : Matching → Text → Bool
  | .unanchored, rawValue =>
    Text.occursIn "true".toList rawValue || Text.occursIn "false".toList rawValue
  | .anchored, rawValue => isTruthLiteral rawValue

/-! ### Conversion -/

/-- The decimal number that a text writes, with the white space around it. -/
def readNumber? (text : Text) : Option (Decimal × Text) := do
  let (decimal, rest) ← Decimal.take? (text.dropWhile Text.isBlank)
  if rest.all Text.isBlank then some (decimal, text.takeWhile Text.isBlank ++ rest) else none

/-- Converts a raw value that is taken as a number (`_to_number`). Around the number there may be
white space, but the conversion gives up at an information separator. -/
def toNumber (field : Option Text) (rawValue : Text) : Except Failure Binary64 :=
  match readNumber? rawValue with
  | none => .error (.query (.valueCoercion rawValue "number".toList field))
  | some (decimal, around) =>
    -- separators count as white space in the form of a number and not in its conversion
    if around.any Text.isSeparator then .error (.fault (.unreadableNumber rawValue))
    else
      let x := Binary64.ofDecimal decimal
      if x.isFinite then .ok x
      else .error (.query (.valueCoercion rawValue "number".toList field))

/-- Converts a raw value that is taken as a truth value (`_to_boolean`). -/
def toBoolean (field : Option Text) (rawValue : Text) : Except Failure Bool :=
  let word := Text.lowerCase (Text.trim rawValue)
  if word = "true".toList then .ok true
  else if word = "false".toList then .ok false
  else .error (.query (.valueCoercion rawValue "boolean".toList field))

/-- A text without one double quote at either end, if both are there (`trim_quotes`). -/
def trimQuotes (text : Text) : Text :=
  match text with
  | '"' :: rest => if rest.getLast? = some '"' then rest.dropLast else text
  | _ => text

/-- The value of a raw value (`coerce_value`): a number if it looks like one, else a truth value if
it looks like one, else a string. The field is named in an error. -/
def ofRaw (matching : Matching) (field : Option Text) (rawValue : Text) : Except Failure Value :=
  if looksNumeric matching rawValue then .number <$> toNumber field rawValue
  else if looksTrue matching rawValue then .boolean <$> toBoolean field rawValue
  else .ok (.string (trimQuotes rawValue))

/-! ### The two ways of matching -/

/-- Anchored matching makes a string of whatever is no literal as a whole. -/
theorem ofRaw_anchored {field : Option Text} {rawValue : Text}
    (hnumber : isNumberLiteral rawValue = false) (htruth : isTruthLiteral rawValue = false) :
    ofRaw .anchored field rawValue = .ok (.string (trimQuotes rawValue)) := by
  simp [ofRaw, looksNumeric, looksTrue, hnumber, htruth]

end Value

end SearchFilter
