import SearchFilter.Json.Basic
import SearchFilter.Proofs.Json.Number

/-!
# JSON text read as a value

The reader follows the grammar of RFC 8259. White space may stand around every token, a string holds
no control character, and a surrogate escape counts only as one half of a pair. Numbers without a
point and without an exponent are whole numbers. A reader that takes the front of a text gives what
it read and the rest.

`takeValue?` reads a value at the front of a text and `ofText?` the value of a whole text.
-/

namespace SearchFilter

namespace Json

/-! ### White space -/

/-- The white space of JSON. -/
def isSpace (c : Char) : Bool := c = ' ' || c = '\t' || c = '\n' || c = '\r'

/-- A text without the white space in front. -/
def skipSpace (text : Text) : Text := text.dropWhile isSpace

theorem length_skipSpace_le (text : Text) : (skipSpace text).length ≤ text.length :=
  (List.dropWhile_suffix isSpace).length_le

/-! ### Strings -/

/-- The value of a hexadecimal digit of either case. -/
def hexValue? (c : Char) : Option Nat :=
  if '0' ≤ c && c ≤ '9' then some (c.toNat - 0x30)
  else if 'a' ≤ c && c ≤ 'f' then some (c.toNat - 0x57)
  else if 'A' ≤ c && c ≤ 'F' then some (c.toNat - 0x37)
  else none

/-- A UTF-16 unit in four hexadecimal digits. -/
def takeUnit? : Text → Option (Nat × Text)
  | a :: b :: c :: d :: rest => do
    let a ← hexValue? a
    let b ← hexValue? b
    let c ← hexValue? c
    let d ← hexValue? d
    return (((a * 16 + b) * 16 + c) * 16 + d, rest)
  | _ => none

/-- The low half of a surrogate pair, with its escape. -/
def takeLowHalf? : Text → Option (Nat × Text)
  | '\\' :: 'u' :: text => do
    let (low, rest) ← takeUnit? text
    if 0xDC00 ≤ low && low < 0xE000 then some (low - 0xDC00, rest) else none
  | _ => none

/-- The character of an escape in UTF-16 units, the first of which stands here without its mark. -/
def takeCode? (text : Text) : Option (Char × Text) := do
  let (unit, rest) ← takeUnit? text
  if unit < 0xD800 || 0xDFFF < unit then some (Char.ofNat unit, rest)
  else if unit < 0xDC00 then do
    let (low, rest) ← takeLowHalf? rest
    return (Char.ofNat (0x10000 + (unit - 0xD800) * 0x400 + low), rest)
  else none

/-- The characters that stand for others behind a backslash, with those. -/
def escapes : List (Char × Char) :=
  [('"', '"'), ('\\', '\\'), ('/', '/'), ('b', '\x08'), ('f', '\x0c'), ('n', '\n'), ('r', '\r'),
    ('t', '\t')]

/-- One character of a string. -/
def takeChar? : Text → Option (Char × Text)
  | '\\' :: 'u' :: text => takeCode? text
  | '\\' :: c :: rest => (escapes.lookup c).map fun meant => (meant, rest)
  | c :: rest => if c.toNat < 0x20 || c = '"' || c = '\\' then none else some (c, rest)
  | [] => none

/-- The characters of a string up to its closing quote. What is left after a character is always
shorter; the test tells that to the recursion, here and below. -/
def takeString? (text : Text) : Option (Text × Text) :=
  match text with
  | '"' :: rest => some ([], rest)
  | text =>
    match takeChar? text with
    | some (c, rest) =>
      if rest.length < text.length then
        (takeString? rest).map fun (value, rest) => (c :: value, rest)
      else none
    | none => none
termination_by text.length

/-! ### Numbers -/

/-- Whether a text is digits, at least one. -/
def isDigitRun (text : Text) : Bool := !text.isEmpty && text.all Char.isDigit

/-- Whether a text is a power of ten, or nothing. -/
def isPower : Text → Bool
  | [] => true
  | mark :: text => (mark = 'e' || mark = 'E') && isDigitRun (Decimal.takeSign text).2

/-- Whether a text is a number without its sign. -/
def isMagnitude (text : Text) : Bool :=
  let whole := text.takeWhile Char.isDigit
  let rest := text.dropWhile Char.isDigit
  isDigitRun whole && (whole.head? != some '0' || whole == ['0']) &&
    match rest with
    | '.' :: rest =>
      isDigitRun (rest.takeWhile Char.isDigit) && isPower (rest.dropWhile Char.isDigit)
    | rest => isPower rest

/-- The value of a number's text: a whole number if it is digits alone, otherwise the binary number
next to the decimal. -/
def numberOf? (text : Text) : Option Json :=
  let magnitude := if text.head? = some '-' then text.tail else text
  if isMagnitude magnitude then
    (Decimal.ofText? text).map fun decimal =>
      if magnitude.all Char.isDigit then
        integer (if decimal.negative then -decimal.coefficient else decimal.coefficient)
      else number (Binary64.ofDecimal decimal)
  else none

/-- The characters of a number, up to the first that belongs to none. -/
def takeNumber? (text : Text) : Option (Json × Text) :=
  (numberOf? (text.takeWhile isNumberChar)).map fun value => (value, text.dropWhile isNumberChar)

/-! ### Values -/

/-- A value that holds no others. -/
def takeScalar? : Text → Option (Json × Text)
  | '"' :: text => (takeString? text).map fun (value, rest) => (string value, rest)
  | 'n' :: 'u' :: 'l' :: 'l' :: rest => some (null, rest)
  | 't' :: 'r' :: 'u' :: 'e' :: rest => some (boolean true, rest)
  | 'f' :: 'a' :: 'l' :: 's' :: 'e' :: rest => some (boolean false, rest)
  | text => takeNumber? text

/-- The name of a member and the colon behind it. -/
def takeName? : Text → Option (Text × Text)
  | '"' :: text => do
    let (name, rest) ← takeString? text
    match skipSpace rest with
    | ':' :: rest => some (name, skipSpace rest)
    | _ => none
  | _ => none

mutual

/-- A value. -/
def takeValue? (text : Text) : Option (Json × Text) :=
  match text with
  | '[' :: text =>
    match skipSpace text with
    | ']' :: rest => some (array [], rest)
    | _ => (takeItems? (skipSpace text)).map fun (items, rest) => (array items, rest)
  | '\x7b' :: text =>
    match skipSpace text with
    | '\x7d' :: rest => some (object [], rest)
    | _ => (takeMembers? (skipSpace text)).map fun (members, rest) => (object members, rest)
  | text => takeScalar? text
termination_by (text.length, 0)
decreasing_by
  · exact .left _ _ (Nat.lt_succ_of_le (length_skipSpace_le _))
  · exact .left _ _ (Nat.lt_succ_of_le (length_skipSpace_le _))

/-- The items of an array, at least one, and the end of the array. -/
def takeItems? (text : Text) : Option (List Json × Text) :=
  match takeValue? text with
  | some (item, rest) =>
    match skipSpace rest with
    | ']' :: rest => some ([item], rest)
    | ',' :: rest =>
      if (skipSpace rest).length < text.length then
        (takeItems? (skipSpace rest)).map fun (items, rest) => (item :: items, rest)
      else none
    | _ => none
  | none => none
termination_by (text.length, 1)

/-- The members of an object, at least one, and the end of the object. -/
def takeMembers? (text : Text) : Option (List (Text × Json) × Text) :=
  match takeName? text with
  | some (name, rest) =>
    if rest.length < text.length then
      match takeValue? rest with
      | some (value, rest) =>
        match skipSpace rest with
        | '\x7d' :: rest => some ([(name, value)], rest)
        | ',' :: rest =>
          if (skipSpace rest).length < text.length then
            (takeMembers? (skipSpace rest)).map fun (members, rest) =>
              ((name, value) :: members, rest)
          else none
        | _ => none
      | none => none
    else none
  | none => none
termination_by (text.length, 1)

end

/-- The value of a whole text. -/
def ofText? (text : Text) : Option Json :=
  match takeValue? (skipSpace text) with
  | some (value, rest) => if (skipSpace rest).isEmpty then some value else none
  | none => none

end Json

end SearchFilter
