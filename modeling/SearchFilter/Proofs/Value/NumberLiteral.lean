import SearchFilter.Proofs.Decimal.Numeral
import SearchFilter.Value.Coercion

/-!
# Number literals as a grammar

Digits, with a point between them or none, behind a minus sign or none. They are numerals without a
plus sign, without an exponent and with digits on both sides of the point.

* `isNumberLiteral_iff`: the check against the grammar.
* `IsNumberLiteral.isNumeral`: a number literal is a numeral.
-/

namespace SearchFilter

namespace Value

/-- Digits, or digits with a point between them. -/
inductive IsPlainNumber : Text → List Nat → List Nat → Prop
  | whole {text : Text} {values : List Nat} (h : Decimal.IsDigits text values)
      (hne : values ≠ []) : IsPlainNumber text values []
  | point {front back : Text} {whole part : List Nat} (hw : Decimal.IsDigits front whole)
      (hp : Decimal.IsDigits back part) (hwhole : whole ≠ []) (hpart : part ≠ []) :
      IsPlainNumber (front ++ '.' :: back) whole part

/-- A plain number behind a minus sign or none, with the decimal that it denotes. -/
inductive IsNumberLiteral : Text → Decimal → Prop
  | unsigned {text : Text} {whole part : List Nat} (h : IsPlainNumber text whole part) :
      IsNumberLiteral text ⟨false, Decimal.ofDigits (whole ++ part), -part.length⟩
  | minus {text : Text} {whole part : List Nat} (h : IsPlainNumber text whole part) :
      IsNumberLiteral ('-' :: text) ⟨true, Decimal.ofDigits (whole ++ part), -part.length⟩

variable {text : Text} {decimal : Decimal}

theorem IsPlainNumber.isMantissa {whole part : List Nat} (h : IsPlainNumber text whole part) :
    Decimal.IsMantissa text whole part := by
  cases h with
  | whole h hne => exact .whole h hne
  | point hw hp hwhole hpart => exact .point hw hp (Or.inl hwhole)

theorem isPlainNumber_iff :
    isPlainNumber text = true ↔ ∃ whole part, IsPlainNumber text whole part := by
  constructor
  · intro h
    obtain ⟨front, htext, hfront⟩ := Decimal.isDigits_takeDigits text
    simp only [isPlainNumber, Bool.and_eq_true, Bool.not_eq_true', List.isEmpty_eq_false_iff] at h
    obtain ⟨hwhole, h⟩ := h
    split at h
    · next hrest =>
      rw [hrest, List.append_nil] at htext
      rw [htext]
      exact ⟨_, _, .whole hfront hwhole⟩
    · next behind hrest =>
      obtain ⟨back, hback, hpart⟩ := Decimal.isDigits_takeDigits behind
      simp only [Bool.and_eq_true, Bool.not_eq_true', List.isEmpty_eq_false_iff,
        List.isEmpty_iff] at h
      rw [h.2, List.append_nil] at hback
      rw [hrest, hback] at htext
      rw [htext]
      exact ⟨_, _, .point hfront hpart hwhole h.1⟩
    · exact absurd h Bool.false_ne_true
  · rintro ⟨whole, part, h⟩
    cases h with
    | whole h hne =>
      have htake := h.takeDigits_append Decimal.noDigit_nil
      rw [List.append_nil] at htake
      simpa [isPlainNumber, htake] using hne
    | @point front back _ _ hw hp hwhole hpart =>
      have hback := hp.takeDigits_append Decimal.noDigit_nil
      rw [List.append_nil] at hback
      have hpoint : Decimal.NoDigit ('.' :: back) := Decimal.noDigit_cons (by decide)
      simpa [isPlainNumber, hw.takeDigits_append hpoint, hback] using And.intro hwhole hpart

/-- The anchored matching takes for a number what is a number literal. -/
theorem isNumberLiteral_iff :
    isNumberLiteral text = true ↔ ∃ decimal, IsNumberLiteral text decimal := by
  constructor
  · intro h
    unfold isNumberLiteral at h
    split at h
    · obtain ⟨whole, part, hplain⟩ := isPlainNumber_iff.1 h
      exact ⟨_, .minus hplain⟩
    · obtain ⟨whole, part, hplain⟩ := isPlainNumber_iff.1 h
      exact ⟨_, .unsigned hplain⟩
  · rintro ⟨decimal, h⟩
    cases h with
    | minus h => exact isPlainNumber_iff.2 ⟨_, _, h⟩
    | @unsigned _ whole part h =>
      have hplain := isPlainNumber_iff.2 ⟨whole, part, h⟩
      unfold isNumberLiteral
      split
      · -- a plain number starts with no sign
        next rest =>
        have hno : isPlainNumber ('-' :: rest) = false := rfl
        rw [hno] at hplain
        cases hplain
      · exact hplain

theorem IsNumberLiteral.isNumeral (h : IsNumberLiteral text decimal) :
    Decimal.IsNumeral text decimal := by
  cases h with
  | @unsigned _ whole part h =>
    have hnumeral := Decimal.IsNumeral.mk .absent h.isMantissa .absent
    rwa [List.nil_append, List.append_nil, Int.zero_sub] at hnumeral
  | @minus text whole part h =>
    have hnumeral := Decimal.IsNumeral.mk .minus h.isMantissa .absent
    rwa [List.singleton_append, List.append_nil, Int.zero_sub] at hnumeral

end Value

end SearchFilter
