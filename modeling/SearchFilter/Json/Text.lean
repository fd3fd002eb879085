import SearchFilter.Binary64.Text
import SearchFilter.Json.Basic
import SearchFilter.Text.Hex

/-!
# JSON text on one line

A value is written with the separators of a style, and its strings in full or in ASCII alone.

* `bounds_of_mem_stringText`: a string's text holds no control character below U+0020, and with the
  ASCII restriction printable ASCII alone.
-/

namespace SearchFilter

namespace Json

/-- How JSON text is written. -/
structure Style where
  /-- Stands between two items or members. -/
  itemSeparator : Text
  /-- Stands between a member's name and its value. -/
  keySeparator : Text
  /-- Whether characters outside printable ASCII are escaped. -/
  asciiOnly : Bool
  deriving DecidableEq

/-- No spaces, and characters as they are. -/
def Style.compact : Style := ⟨[','], [':'], false⟩

/-- A space after each separator, and characters as they are. -/
def Style.spaced : Style := ⟨[',', ' '], [':', ' '], false⟩

/-! ### Strings -/

/-- The escape of a UTF-16 unit. -/
def unitEscape (unit : Nat) : Text := '\\' :: 'u' :: Text.hexCode 4 unit

/-- The escape of a character: one UTF-16 unit, or two for a supplementary character. -/
def codeEscape (c : Char) : Text :=
  if c.toNat < 0x10000 then unitEscape c.toNat
  else
    unitEscape (0xD800 + (c.toNat - 0x10000) / 0x400) ++
      unitEscape (0xDC00 + (c.toNat - 0x10000) % 0x400)

/-- One character of a string's text. -/
def stringChar (asciiOnly : Bool) (c : Char) : Text :=
  if c = '"' || c = '\\' then ['\\', c]
  else if c = '\x08' then ['\\', 'b']
  else if c = '\x0c' then ['\\', 'f']
  else if c = '\n' then ['\\', 'n']
  else if c = '\r' then ['\\', 'r']
  else if c = '\t' then ['\\', 't']
  else if c.toNat < 0x20 || (asciiOnly && 0x7E < c.toNat) then codeEscape c
  else [c]

/-- The text of a string, in double quotes. -/
def stringText (asciiOnly : Bool) (value : Text) : Text :=
  '"' :: value.flatMap (stringChar asciiOnly) ++ ['"']

/-! ### Values -/

/-- The text of a whole number. -/
def integerText (value : Int) : Text := Binary64.signed (value < 0) (Binary64.numeral value.natAbs)

mutual

/-- The text of a value. Numbers that are not finite are written as words. -/
def text (style : Style) : Json → Text
  | null => "null".toList
  | boolean true => "true".toList
  | boolean false => "false".toList
  | integer value => integerText value
  | number value => value.text .json
  | string value => stringText style.asciiOnly value
  | array items => '[' :: itemsText style items ++ [']']
  | object members => '\x7b' :: membersText style members ++ ['\x7d']

/-- The text of the items of an array. -/
def itemsText (style : Style) : List Json → Text
  | [] => []
  | [item] => item.text style
  | item :: items => item.text style ++ style.itemSeparator ++ itemsText style items

/-- The text of the members of an object. -/
def membersText (style : Style) : List (Text × Json) → Text
  | [] => []
  | [(name, value)] => stringText style.asciiOnly name ++ style.keySeparator ++ value.text style
  | (name, value) :: members =>
    stringText style.asciiOnly name ++ style.keySeparator ++ value.text style ++
      style.itemSeparator ++ membersText style members

end

/-! ### The characters of a string's text -/

theorem hexDigit_bounds {n : Nat} (h : n < 16) :
    0x20 ≤ (Text.hexDigit n).toNat ∧ (Text.hexDigit n).toNat ≤ 0x7E := by
  have hall : ∀ m < 16, 0x20 ≤ (Text.hexDigit m).toNat ∧ (Text.hexDigit m).toNat ≤ 0x7E := by
    decide
  exact hall n h

theorem bounds_of_mem_hexCode {width n : Nat} {c : Char} (h : c ∈ Text.hexCode width n) :
    0x20 ≤ c.toNat ∧ c.toNat ≤ 0x7E := by
  induction width generalizing n with
  | zero => simp [Text.hexCode] at h
  | succ width ih =>
    rcases List.mem_append.1 h with h | h
    · exact ih h
    · obtain rfl := List.mem_singleton.1 h
      exact hexDigit_bounds (Nat.mod_lt _ (by decide))

theorem bounds_of_mem_codeEscape {c d : Char} (h : d ∈ codeEscape c) :
    0x20 ≤ d.toNat ∧ d.toNat ≤ 0x7E := by
  have hunit : ∀ n, d ∈ unitEscape n → 0x20 ≤ d.toNat ∧ d.toNat ≤ 0x7E := by
    intro n hd
    simp only [unitEscape, List.mem_cons] at hd
    rcases hd with rfl | rfl | hd
    · decide
    · decide
    · exact bounds_of_mem_hexCode hd
  unfold codeEscape at h
  split at h
  · exact hunit _ h
  · rcases List.mem_append.1 h with h | h <;> exact hunit _ h

theorem bounds_of_mem_stringChar {asciiOnly : Bool} {c d : Char}
    (h : d ∈ stringChar asciiOnly c) :
    0x20 ≤ d.toNat ∧ (asciiOnly = true → d.toNat ≤ 0x7E) := by
  unfold stringChar at h
  split at h
  · next hspecial =>
    simp only [Bool.or_eq_true, decide_eq_true_eq] at hspecial
    simp only [List.mem_cons, List.not_mem_nil, or_false] at h
    rcases h with rfl | rfl
    · decide +revert
    · rcases hspecial with rfl | rfl <;> decide +revert
  · repeat' split at h
    iterate 5
      · simp only [List.mem_cons, List.not_mem_nil, or_false] at h
        rcases h with rfl | rfl <;> decide +revert
    · exact ⟨(bounds_of_mem_codeEscape h).1, fun _ => (bounds_of_mem_codeEscape h).2⟩
    · next hordinary =>
      simp only [Bool.or_eq_true, Bool.and_eq_true, decide_eq_true_eq, not_or, not_and] at hordinary
      obtain rfl := List.mem_singleton.1 h
      refine ⟨by omega, fun hascii => ?_⟩
      have hbound := hordinary.2 hascii
      omega

theorem bounds_of_mem_stringText {asciiOnly : Bool} {value : Text} {c : Char}
    (h : c ∈ stringText asciiOnly value) :
    0x20 ≤ c.toNat ∧ (asciiOnly = true → c.toNat ≤ 0x7E) := by
  simp only [stringText, List.cons_append, List.mem_cons, List.mem_append, List.mem_flatMap,
    List.not_mem_nil, or_false] at h
  rcases h with rfl | ⟨d, _, h⟩ | rfl
  · decide +revert
  · exact bounds_of_mem_stringChar h
  · decide +revert

end Json

end SearchFilter
