import SearchFilter.Proofs.Binary64.Whole
import SearchFilter.Proofs.Compile.PrintedNumber
import SearchFilter.Proofs.Value.Anchored

/-!
# Whole numbers in a query

A whole number up to 2⁵³ can be written behind a name and a colon, with any number of zeros in front
of its digits. Both matchings read it as itself, without rounding, and the filter shows its own
digits with a zero behind the point.

* `Value.ofRaw_paddedText`: what is written is taken for the number.
* `compileQuery_whole`: the filter shows the number.
-/

namespace SearchFilter

namespace Json

/-- The text of a whole number with zeros in front of its digits, behind the sign. -/
def paddedText (zeros : Nat) (n : Int) : Text :=
  Binary64.signed (n < 0) (List.replicate zeros '0' ++ Binary64.numeral n.natAbs)

@[simp] theorem paddedText_zero (n : Int) : paddedText 0 n = integerText n := rfl

theorem isDigits_padded (zeros n : Nat) :
    IsDigits (List.replicate zeros '0' ++ Binary64.numeral n) :=
  Binary64.isDigits_append Binary64.isDigit_of_mem_zeros (Binary64.isDigits_numeral n)

theorem isNumberChar_paddedText (zeros : Nat) (n : Int) :
    ∀ c ∈ paddedText zeros n, isNumberChar c = true := by
  have hdigits := (isDigits_padded zeros n.natAbs).isNumberChar
  rw [paddedText, Binary64.signed]
  split
  · exact List.forall_mem_cons.2 ⟨by decide, hdigits⟩
  · exact hdigits

end Json

namespace Value

/-- With zeros in front or without, a whole number is a number literal for itself. -/
theorem isNumberLiteral_paddedText (zeros : Nat) (n : Int) :
    IsNumberLiteral (Json.paddedText zeros n) ⟨n < 0, n.natAbs, 0⟩ := by
  have hdigits := Json.isDigits_padded zeros n.natAbs
  have hplain := IsPlainNumber.whole hdigits.isDigits hdigits.digitValues_ne_nil
  have hworth : Decimal.ofDigits
      (Json.digitValues (List.replicate zeros '0' ++ Binary64.numeral n.natAbs) ++ []) =
        n.natAbs := by
    rw [List.append_nil, Json.ofDigits_digitValues, Binary64.ofDigitChars_zeros_append,
      Binary64.ofDigitChars_numeral]
  cases hsign : decide (n < 0) with
  | false =>
    have hliteral := IsNumberLiteral.unsigned hplain
    rw [hworth] at hliteral
    rw [Json.paddedText, hsign]
    exact hliteral
  | true =>
    have hliteral := IsNumberLiteral.minus hplain
    rw [hworth] at hliteral
    rw [Json.paddedText, hsign]
    exact hliteral

/-- A number literal converts to its value in either matching. -/
theorem ofRaw_of_isNumberLiteral {text : Text} {decimal : Decimal}
    (h : IsNumberLiteral text decimal) (hfinite : (Binary64.ofDecimal decimal).isFinite = true)
    (matching : Matching) (field : Option Text) :
    ofRaw matching field text = .ok (.number (Binary64.ofDecimal decimal)) := by
  have hanchored : ofRaw .anchored field text = .ok (.number (Binary64.ofDecimal decimal)) := by
    rw [ofRaw_anchored_of_isNumberLiteral field ⟨decimal, h⟩, toNumber_of_isNumeral field
      h.isNumeral, if_pos hfinite]
    rfl
  cases matching with
  | anchored => exact hanchored
  | unanchored => rwa [← ofRaw_anchored_eq_of_isLiteral field (Or.inl ⟨decimal, h⟩)]

/-- A whole number up to 2⁵³ is taken for itself, and its text is its own digits. -/
theorem ofRaw_paddedText {n : Int} (h : |n| ≤ 2 ^ 53) (zeros : Nat) (matching : Matching)
    (field : Option Text) :
    ∃ x : Binary64, ofRaw matching field (Json.paddedText zeros n) = .ok (.number x) ∧
      x.toRat? = some (n : ℚ) ∧ x.text .json = Json.integerText n ++ ".0".toList := by
  have hle : n.natAbs ≤ 2 * Binary64.fractions := by
    have hfractions : 2 * Binary64.fractions = 2 ^ 53 := by decide
    rw [Int.abs_eq_natAbs] at h
    rw [hfractions]
    exact_mod_cast h
  obtain ⟨code, hcode, hread, hworth⟩ := Binary64.exists_ofDecimal_whole hle
  refine ⟨.finite (n < 0) code, ?_, hworth, ?_⟩
  · rw [← hread]
    refine ofRaw_of_isNumberLiteral (isNumberLiteral_paddedText zeros n) ?_ matching field
    rw [hread]
    rfl
  · rw [Binary64.text, hcode, Binary64.magnitudeText_whole hle, Json.integerText]
    cases decide (n < 0) with
    | false => rfl
    | true => rfl

end Value

/-- **Whole numbers come through unchanged.** A whole number up to 2⁵³ that is written behind a name
and a colon, with any number of zeros in front of its digits, is taken for that very number in
either matching; and the filter shows the digits of the number with a point and a zero behind it. -/
theorem compileQuery_whole {n : Int} (h : |n| ≤ 2 ^ 53) {name : Text} (hname : Term.IsName name)
    (zeros : Nat) (policies : Policies) :
    let written := Json.paddedText zeros n
    (∃ x : Binary64, Value.ofRaw policies.matching (some name) written = .ok (.number x) ∧
      x.toRat? = some (n : ℚ) ∧ x.text .json = Json.integerText n ++ ".0".toList) ∧
    compileQuery policies {} (some (name ++ ':' :: written)) =
      .ok ('\x7b' :: Json.stringText false name ++ ':' :: Json.integerText n ++
        ".0\x7d".toList) := by
  intro written
  obtain ⟨x, hvalue, hworth, htext⟩ := Value.ofRaw_paddedText h zeros policies.matching (some name)
  refine ⟨⟨x, hvalue, hworth, htext⟩, ?_⟩
  have hliteral := Value.isNumberLiteral_paddedText zeros n
  obtain ⟨c, hc, -⟩ := hliteral.hasDigit
  obtain ⟨hraw, hbare⟩ := Value.isValueText_of_isNumberChar (List.ne_nil_of_mem hc)
    (Json.isNumberChar_paddedText zeros n)
  -- the query has one term, whose value is known
  have hquery :
      compileQuery policies {} (some (name ++ Operator.equality.symbol ++ written)) =
        .ok (Document.singleText .compact name .equality
          ((Value.number x).toJson.text .compact)) :=
    compileQuery_term hname hraw hbare hvalue {}
  have hshown : Document.singleText .compact name .equality
      ((Value.number x).toJson.text .compact) =
        '\x7b' :: Json.stringText false name ++ ':' :: Json.integerText n ++ ".0\x7d".toList := by
    show '\x7b' :: (Json.stringText false name ++ [':'] ++ x.text .json) ++ ['\x7d'] = _
    simp [htext]
  have htoken : name ++ Operator.equality.symbol ++ written = name ++ ':' :: written :=
    (List.append_cons name ':' written).symm
  rw [← htoken, hquery, hshown]

/-- The lowest of these numbers, with two zeros more. -/
theorem compileQuery_whole_lowest :
    compileQuery ⟨.anchored, .drop⟩ {} (some "n:-009007199254740992".toList) =
      .ok "\x7b\"n\":-9007199254740992.0\x7d".toList := by
  have hname : Term.IsName "n".toList := ⟨by decide, by simp, by decide⟩
  have h := (compileQuery_whole (n := -2 ^ 53) (by decide) hname 2 ⟨.anchored, .drop⟩).2
  have hwritten : "n".toList ++ ':' :: Json.paddedText 2 (-2 ^ 53) =
      "n:-009007199254740992".toList := by decide
  have hshown : '\x7b' :: Json.stringText false "n".toList ++ ':' :: Json.integerText (-2 ^ 53) ++
      ".0\x7d".toList = "\x7b\"n\":-9007199254740992.0\x7d".toList := by decide
  rw [hwritten, hshown] at h
  exact h

end SearchFilter
