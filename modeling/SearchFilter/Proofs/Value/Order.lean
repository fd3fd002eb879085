import SearchFilter.Proofs.Binary64.Rational
import SearchFilter.Proofs.Value.Coercion

/-!
# Numbers in the order in which they are written

A number text denotes one rational number, with digits of any script, and the coercion rounds that
number: what is written to be no more is no more, and two ways of writing the same number give the
same one.

* `denotes_iff_of_ofRaw`: what a converted text denotes.
* `ofRaw_number_mono`: the coercion keeps the order of what is written.
-/

namespace SearchFilter

namespace Value

variable {matching : Matching} {field : Option Text} {text : Text} {x : Binary64}

/-- The text, without the white space around it, is a numeral for the number. -/
def Denotes (text : Text) (q : ℚ) : Prop :=
  ∃ decimal : Decimal, IsNumberText isTrimmed text decimal ∧ decimal.toRat = q

/-- A number comes out of the conversion to numbers, whatever the matching. -/
theorem toNumber_of_ofRaw (h : ofRaw matching field text = .ok (.number x)) :
    toNumber field text = .ok x := by
  unfold ofRaw at h
  split_ifs at h
  · cases hnumber : toNumber field text with
    | error failure =>
      rw [hnumber] at h
      cases h
    | ok y =>
      rw [hnumber] at h
      obtain rfl : y = x := number.inj (Except.ok.inj h)
      rfl
  · cases hboolean : toBoolean field text with
    | error failure =>
      rw [hboolean] at h
      cases h
    | ok b =>
      rw [hboolean] at h
      cases h
  · cases h

/-- A numeral can be read in one way only. -/
theorem IsNumberText.unique {decimal other : Decimal} (h : IsNumberText isTrimmed text decimal)
    (hother : IsNumberText isTrimmed text other) : decimal = other := by
  obtain ⟨around, hread, -⟩ := isNumberText_isTrimmed_iff.1 h
  obtain ⟨around', hread', -⟩ := isNumberText_isTrimmed_iff.1 hother
  rw [hread, Option.some.injEq, Prod.mk.injEq] at hread'
  exact hread'.1

/-- A text that converts denotes one number, and it converts to that number rounded. -/
theorem denotes_iff_of_ofRaw (h : ofRaw matching field text = .ok (.number x)) :
    ∃ q, (∀ r, Denotes text r ↔ r = q) ∧ x.toRat? = some (Binary64.round q) := by
  obtain ⟨decimal, hnumber, hfinite, rfl⟩ := toNumber_eq_ok_iff.1 (toNumber_of_ofRaw h)
  refine ⟨decimal.toRat, fun r => ⟨?_, ?_⟩, Binary64.toRat?_ofDecimal hfinite⟩
  · rintro ⟨other, hother, rfl⟩
    rw [hnumber.unique hother]
  · rintro rfl
    exact ⟨decimal, hnumber, rfl⟩

/-- **Numbers are in the order in which they are written.** Of two texts that convert to numbers,
each denotes one rational number, and if the first denotes no more than the second then it converts
to no more; if both denote the same, they convert to the same number. -/
theorem ofRaw_number_mono {field' : Option Text} {text' : Text} {y : Binary64}
    (hx : ofRaw matching field text = .ok (.number x))
    (hy : ofRaw matching field' text' = .ok (.number y)) :
    ∃ a b p q, (∀ r, Denotes text r ↔ r = a) ∧ (∀ r, Denotes text' r ↔ r = b) ∧
      x.toRat? = some p ∧ y.toRat? = some q ∧ (a ≤ b → p ≤ q) ∧ (a = b → p = q) := by
  obtain ⟨a, ha, hp⟩ := denotes_iff_of_ofRaw hx
  obtain ⟨b, hb, hq⟩ := denotes_iff_of_ofRaw hy
  exact ⟨a, b, _, _, ha, hb, hp, hq, fun hle => Binary64.round_mono hle, congrArg Binary64.round⟩

/-- A number halfway between two, and the same with other digits, more zeros, an exponent, a sign
and white space. -/
theorem ofRaw_number_mono_halfway :
    let text := "9007199254740993".toList
    let text' := "\u3000+٠٩٠٠٧١٩٩٢٥٤٧٤.09930E4 ".toList
    let x := Binary64.ofDecimal ⟨false, 9007199254740992, 0⟩
    ofRaw .unanchored none text = .ok (.number x) ∧
      ofRaw .unanchored none text' = .ok (.number x) ∧
      ∃ a b p q, (∀ r, Denotes text r ↔ r = a) ∧ (∀ r, Denotes text' r ↔ r = b) ∧
        x.toRat? = some p ∧ x.toRat? = some q ∧ (a ≤ b → p ≤ q) ∧ (a = b → p = q) := by
  intro text text' x
  have hx : ofRaw .unanchored none text = .ok (.number x) := by decide +kernel
  have hy : ofRaw .unanchored none text' = .ok (.number x) := by decide +kernel
  exact ⟨hx, hy, ofRaw_number_mono hx hy⟩

end Value

end SearchFilter
