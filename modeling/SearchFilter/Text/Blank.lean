import SearchFilter.Text.Basic

/-!
# White space

Two sets of characters matter: all white space, and in it the four information separators U+001C to
U+001F, which are white space everywhere but around a number.
-/

namespace SearchFilter

namespace Text

/-- Unicode white space, including the information separators. -/
def isBlank (c : Char) : Bool :=
  let n := c.toNat
  (0x09 ≤ n && n ≤ 0x0D) || (0x1C ≤ n && n ≤ 0x20) || n == 0x85 || n == 0xA0 || n == 0x1680 ||
    (0x2000 ≤ n && n ≤ 0x200A) || n == 0x2028 || n == 0x2029 || n == 0x202F || n == 0x205F ||
    n == 0x3000

/-- An information separator, U+001C to U+001F. -/
def isSeparator (c : Char) : Bool := 0x1C ≤ c.toNat && c.toNat ≤ 0x1F

/-- A text without the blanks at its start. -/
def trimStart (text : Text) : Text := text.dropWhile isBlank

/-- A text without the blanks at its end. -/
def trimEnd (text : Text) : Text := (trimStart text.reverse).reverse

/-- A text without the blanks at either end. -/
def trim (text : Text) : Text := trimEnd (trimStart text)

end Text

end SearchFilter
