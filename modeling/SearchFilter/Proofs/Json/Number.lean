import Mathlib.Data.List.Basic
import SearchFilter.Binary64.Text
import SearchFilter.Proofs.Decimal.Numeral

/-!
# Numbers in JSON text

The grammar is that of decimal numerals with less freedom: the digits are ASCII, a number has no
plus sign in front and no zero before other digits, and a point has digits on both sides.

* `IsMagnitude.isNumeral`: what is a number in JSON is a numeral of the same worth.
* `IsMagnitude.isNumberChar`: the characters of a number.
-/

namespace SearchFilter

namespace Json

/-! ### The grammar -/

/-- ASCII digits, at least one. -/
structure IsDigits (text : Text) : Prop where
  ne_nil : text ≠ []
  isDigit : ∀ c ∈ text, c.isDigit = true

/-- The digits of a whole number: no zero stands before other digits. -/
structure IsWhole (text : Text) : Prop extends IsDigits text where
  head : text.head? = some '0' → text = ['0']

/-- A point and the digits behind it, which may be left out. -/
inductive IsFraction : Text → Text → Prop where
  | absent : IsFraction [] []
  | written {part : Text} (h : IsDigits part) : IsFraction ('.' :: part) part

/-- A power of ten, which may be left out. -/
inductive IsPower : Text → Int → Prop where
  | absent : IsPower [] 0
  | written {mark : Char} {sign digits : Text} {negative : Bool} (hmark : mark = 'e' ∨ mark = 'E')
    (hs : Decimal.IsSign sign negative) (hd : IsDigits digits) :
    IsPower (mark :: sign ++ digits)
      (if negative then -(Nat.ofDigitChars 10 digits 0 : Int) else Nat.ofDigitChars 10 digits 0)

/-- A number without its sign, with its coefficient and its exponent. The truth value tells whether
there is neither a point nor a power of ten. -/
inductive IsMagnitude : Text → Nat → Int → Bool → Prop where
  | mk {whole fraction part power : Text} {exponent : Int} (hw : IsWhole whole)
    (hf : IsFraction fraction part) (hp : IsPower power exponent) :
    IsMagnitude (whole ++ fraction ++ power) (Nat.ofDigitChars 10 (whole ++ part) 0)
      (exponent - part.length) (fraction.isEmpty && power.isEmpty)

/-! ### Digits -/

theorem toNat_bounds_of_isDigit {c : Char} (h : c.isDigit = true) :
    48 ≤ c.toNat ∧ c.toNat ≤ 57 := by
  simp only [Char.isDigit, Bool.and_eq_true, decide_eq_true_eq, ge_iff_le,
    UInt32.le_iff_toNat_le] at h
  exact h

theorem digitValue?_of_isDigit {c : Char} (h : c.isDigit = true) :
    Text.digitValue? c = some (c.toNat - '0'.toNat) := by
  obtain ⟨hlow, hhigh⟩ := toNat_bounds_of_isDigit h
  -- the zero of the ASCII digits is the first one in the table
  have hfind : Text.digitZeros.find? (fun start => start ≤ c.toNat && c.toNat < start + 10) =
      some 48 :=
    List.find?_cons_of_pos (by
      simp only [Bool.and_eq_true, decide_eq_true_eq]
      omega)
  rw [Text.digitValue?, hfind]
  rfl

/-- The values of ASCII digits. -/
def digitValues (text : Text) : List Nat := text.map fun c => c.toNat - '0'.toNat

theorem ofDigits_digitValues (text : Text) :
    Decimal.ofDigits (digitValues text) = Nat.ofDigitChars 10 text 0 :=
  List.foldl_map

theorem IsDigits.isDigits {text : Text} (h : IsDigits text) :
    Decimal.IsDigits text (digitValues text) := by
  rw [Decimal.IsDigits, digitValues, List.map_map]
  exact List.map_congr_left fun c hc => digitValue?_of_isDigit (h.isDigit c hc)

theorem IsDigits.digitValues_ne_nil {text : Text} (h : IsDigits text) : digitValues text ≠ [] :=
  fun hnil => h.ne_nil (List.map_eq_nil_iff.1 hnil)

/-! ### Numbers are numerals -/

theorem IsFraction.isMantissa {whole fraction part : Text} (hw : IsWhole whole)
    (hf : IsFraction fraction part) :
    Decimal.IsMantissa (whole ++ fraction) (digitValues whole) (digitValues part) := by
  have hwhole := hw.toIsDigits.isDigits
  have hne := hw.toIsDigits.digitValues_ne_nil
  cases hf with
  | absent =>
    rw [List.append_nil]
    exact .whole hwhole hne
  | written h => exact .point hwhole h.isDigits (Or.inl hne)

theorem IsPower.isExponent {power : Text} {exponent : Int} (h : IsPower power exponent) :
    Decimal.IsExponent power exponent := by
  cases h with
  | absent => exact .absent
  | @written mark sign digits negative hmark hs hd =>
    rw [← ofDigits_digitValues]
    exact .written hmark hs hd.isDigits hd.digitValues_ne_nil

/-- A number is a numeral, and what it is worth as the one it is worth as the other. -/
theorem IsMagnitude.isNumeral {text : Text} {coefficient : Nat} {exponent : Int} {integer : Bool}
    (h : IsMagnitude text coefficient exponent integer) (negative : Bool) :
    Decimal.IsNumeral (Binary64.signed negative text) ⟨negative, coefficient, exponent⟩ := by
  cases h with
  | @mk whole fraction part power exponent hw hf hp =>
    have hsign : Decimal.IsSign (if negative then ['-'] else []) negative := by
      cases negative with
      | false => exact .absent
      | true => exact .minus
    have htext : Binary64.signed negative (whole ++ fraction ++ power) =
        (if negative then ['-'] else []) ++ (whole ++ fraction) ++ power := by
      cases negative with
      | false => rfl
      | true => rfl
    have hnumeral := Decimal.IsNumeral.mk hsign (hf.isMantissa hw) hp.isExponent
    have hvalues : digitValues whole ++ digitValues part = digitValues (whole ++ part) :=
      List.map_append.symm
    rw [hvalues, ofDigits_digitValues, digitValues, List.length_map] at hnumeral
    rw [htext]
    exact hnumeral

/-! ### The characters of a number -/

/-- The characters that numbers are written with. -/
def isNumberChar (c : Char) : Bool := c.isDigit || ['-', '+', '.', 'e', 'E'].contains c

theorem IsDigits.isNumberChar {text : Text} (h : IsDigits text) :
    ∀ c ∈ text, isNumberChar c = true := by
  intro c hc
  rw [Json.isNumberChar, h.isDigit c hc, Bool.true_or]

theorem IsFraction.isNumberChar {fraction part : Text} (h : IsFraction fraction part) :
    ∀ c ∈ fraction, isNumberChar c = true := by
  cases h with
  | absent => exact List.forall_mem_nil _
  | written h => exact List.forall_mem_cons.2 ⟨by decide, h.isNumberChar⟩

theorem IsPower.isNumberChar {power : Text} {exponent : Int} (h : IsPower power exponent) :
    ∀ c ∈ power, isNumberChar c = true := by
  cases h with
  | absent => exact List.forall_mem_nil _
  | @written mark sign digits negative hmark hs hd =>
    have hm : Json.isNumberChar mark = true := by
      rcases hmark with rfl | rfl
      · decide
      · decide
    have hsign : ∀ c ∈ sign, Json.isNumberChar c = true := by
      cases hs with
      | absent => exact List.forall_mem_nil _
      | plus => exact List.forall_mem_singleton.2 (by decide)
      | minus => exact List.forall_mem_singleton.2 (by decide)
    rw [List.forall_mem_append, List.forall_mem_cons]
    exact ⟨⟨hm, hsign⟩, hd.isNumberChar⟩

theorem IsMagnitude.isNumberChar {text : Text} {coefficient : Nat} {exponent : Int}
    {integer : Bool} (h : IsMagnitude text coefficient exponent integer) :
    ∀ c ∈ text, isNumberChar c = true := by
  cases h with
  | mk hw hf hp =>
    rw [List.forall_mem_append, List.forall_mem_append]
    exact ⟨⟨hw.toIsDigits.isNumberChar, hf.isNumberChar⟩, hp.isNumberChar⟩

/-- A number without its sign starts with a digit. -/
theorem IsMagnitude.exists_eq_cons {text : Text} {coefficient : Nat} {exponent : Int}
    {integer : Bool} (h : IsMagnitude text coefficient exponent integer) :
    ∃ c rest, text = c :: rest ∧ c.isDigit = true := by
  cases h with
  | @mk whole fraction part power exponent hw hf hp =>
    obtain ⟨c, more, rfl⟩ := List.exists_cons_of_ne_nil hw.ne_nil
    exact ⟨c, more ++ (fraction ++ power), by simp, hw.isDigit c List.mem_cons_self⟩

end Json

end SearchFilter
