import SearchFilter.Command.Output
import SearchFilter.Proofs.Json.Characters

/-!
# The cell for a value in the table of terms

The cell is JSON text, in which a string stands in quotes, and the numbers that JSON has no digits
for stand as words that are no JSON at all. So a cell can be read back, and two values with the same
cell are the same value of the same type.

* `valueOfCell?_formatValue`: the value is read back from its cell.
* `formatValue_eq_iff`: two values have one cell exactly if they are the same; a cell is one line.
-/

namespace SearchFilter

namespace Json

/-- A text that starts as no array, no object and no scalar is no JSON text. -/
theorem ofText?_eq_none {c : Char} {more : Text} (hspace : isSpace c = false) (harray : c ≠ '[')
    (hobject : c ≠ '\x7b') (h : takeScalar? (c :: more) = none) : ofText? (c :: more) = none := by
  rw [ofText?, skipSpace_of_startsToken (startsToken_cons hspace more),
    takeValue?_of_head harray hobject, h]

end Json

namespace Value

/-- The value that is written as a JSON value. -/
def ofJson? : Json → Option Value
  | .number x => some (.number x)
  | .boolean b => some (.boolean b)
  | .string text => some (.string text)
  | _ => none

theorem ofJson?_toJson (v : Value) : ofJson? v.toJson = some v := by
  cases v with
  | number x => rfl
  | boolean b => rfl
  | string text => rfl

end Value

namespace Output

/-! ### Reading a cell -/

/-- The numbers that are written as words. -/
def wordNumbers : List Binary64 := [.infinite false, .infinite true, .nan]

theorem mem_wordNumbers {x : Binary64} (h : x.isFinite = false) : x ∈ wordNumbers := by
  cases x with
  | finite negative code => cases h
  | infinite negative => cases negative <;> decide
  | nan => decide

theorem exists_mem_wordNumbers {v : Value} (h : ¬ v.toJson.isFinite = true) :
    ∃ x ∈ wordNumbers, v = .number x := by
  cases v with
  | number x => exact ⟨x, mem_wordNumbers (Bool.not_eq_true _ ▸ h), rfl⟩
  | boolean b => exact absurd rfl h
  | string text => exact absurd rfl h

/-- The value that a cell shows: the number whose word it is, or else that of the JSON text. -/
def valueOfCell? (cell : Text) : Option Value :=
  match wordNumbers.find? (fun x => x.text .json = cell) with
  | some x => some (.number x)
  | none => (Json.ofText? cell).bind Value.ofJson?

/-- No word for a number is JSON text. -/
theorem ofText?_wordNumber : ∀ x ∈ wordNumbers, Json.ofText? (x.text .json) = none := by
  have hplus : Json.ofText? ('I' :: "nfinity".toList) = none :=
    Json.ofText?_eq_none (by decide) (by decide) (by decide) rfl
  have hminus : Json.ofText? ('-' :: "Infinity".toList) = none :=
    Json.ofText?_eq_none (by decide) (by decide) (by decide) rfl
  have hnan : Json.ofText? ('N' :: "aN".toList) = none :=
    Json.ofText?_eq_none (by decide) (by decide) (by decide) rfl
  simp only [wordNumbers, List.forall_mem_cons]
  exact ⟨hplus, hminus, hnan, List.forall_mem_nil _⟩

/-- The value of a cell is read back from it. -/
theorem valueOfCell?_formatValue (v : Value) : valueOfCell? (formatValue v.toJson) = some v := by
  by_cases hfinite : v.toJson.isFinite = true
  · have hread : Json.ofText? (formatValue v.toJson) = some v.toJson :=
      Json.ofText?_text Json.Style.isPadded_spaced hfinite
    have hwords : wordNumbers.find? (fun x => x.text .json = formatValue v.toJson) = none := by
      rw [List.find?_eq_none]
      intro x hx
      rw [decide_eq_true_eq]
      intro hword
      rw [← hword, ofText?_wordNumber x hx] at hread
      cases hread
    rw [valueOfCell?, hwords, hread]
    exact Value.ofJson?_toJson v
  · -- each word is that of one number
    have hword : ∀ x ∈ wordNumbers,
        wordNumbers.find? (fun y => y.text .json = x.text .json) = some x := by decide
    obtain ⟨x, hx, rfl⟩ := exists_mem_wordNumbers hfinite
    have hfind : wordNumbers.find? (fun y => y.text .json = formatValue (Value.number x).toJson) =
        some x := hword x hx
    rw [valueOfCell?, hfind]

/-- Values with the same cell are the same. -/
theorem formatValue_injective : Function.Injective fun v : Value => formatValue v.toJson := by
  have hread : valueOfCell? ∘ (fun v : Value => formatValue v.toJson) = some :=
    funext valueOfCell?_formatValue
  exact Function.Injective.of_comp (hread ▸ Option.some_injective Value)

/-! ### The type of a cell -/

/-- The type of the value in a cell, from the first character alone. -/
def typeOfCell : Text → Text
  | '"' :: _ => "string".toList
  | 't' :: _ => "boolean".toList
  | 'f' :: _ => "boolean".toList
  | _ => "number".toList

theorem typeOfCell_cons {c : Char} (hquote : c ≠ '"') (htrue : c ≠ 't') (hfalse : c ≠ 'f')
    (more : Text) : typeOfCell (c :: more) = "number".toList := by
  unfold typeOfCell
  split
  · next heq => exact absurd (List.cons.inj heq).1 hquote
  · next heq => exact absurd (List.cons.inj heq).1 htrue
  · next heq => exact absurd (List.cons.inj heq).1 hfalse
  · rfl

/-- The text of a number starts with a sign, a digit or one of two capital letters. -/
theorem typeOfCell_text_number (x : Binary64) : typeOfCell (x.text .json) = "number".toList := by
  cases hfinite : x.isFinite with
  | false =>
    have hwords : ∀ x ∈ wordNumbers, typeOfCell (x.text .json) = "number".toList := by decide
    exact hwords x (mem_wordNumbers hfinite)
  | true =>
    obtain ⟨negative, magnitude, coefficient, exponent, htext, hmagnitude, -⟩ :=
      Json.exists_isMagnitude_number hfinite
    obtain ⟨c, more, hcons, hc⟩ := Json.exists_signed_eq_cons hmagnitude negative
    have hne : ∀ d, d ≠ '-' → d.isDigit = false → c ≠ d := by
      rintro d hminus hdigit rfl
      rcases hc with rfl | hc
      · exact hminus rfl
      · rw [hdigit] at hc
        cases hc
    rw [htext, hcons]
    exact typeOfCell_cons (hne '"' (by decide) (by decide)) (hne 't' (by decide) (by decide))
      (hne 'f' (by decide) (by decide)) more

theorem valueType_eq_typeOfCell (v : Value) :
    valueType v.toJson = typeOfCell (formatValue v.toJson) := by
  cases v with
  | number x => exact (typeOfCell_text_number x).symm
  | boolean b => cases b <;> rfl
  | string text => rfl

/-- A cell holds no control character. -/
theorem space_le_of_mem_formatValue {v : Value} {c : Char} (hc : c ∈ formatValue v.toJson) :
    0x20 ≤ c.toNat := by
  by_cases hfinite : v.toJson.isFinite = true
  · exact Json.space_le_of_mem_text_spaced hfinite hc
  · have hwords : ∀ x ∈ wordNumbers, (x.text .json).all Json.isAscii = true := by decide
    obtain ⟨x, hx, rfl⟩ := exists_mem_wordNumbers hfinite
    have hrange : Json.IsInRange .spaced (x.text .json) := Json.isInRange_of_all (hwords x hx)
    exact (hrange c hc).1

/-! ### The table -/

/-- **A cell shows one value.** Values with the same cell are the same value of the same type, down
to the sign of zero, and the value is read back from the cell; the name of the type is told by the
first character of the cell; and no control character ever stands in a cell. -/
theorem formatValue_eq_iff (v w : Value) :
    (formatValue v.toJson = formatValue w.toJson ↔ v = w) ∧
    valueOfCell? (formatValue v.toJson) = some v ∧
    valueType v.toJson = typeOfCell (formatValue v.toJson) ∧
    ∀ c ∈ formatValue v.toJson, 0x20 ≤ c.toNat :=
  ⟨⟨fun hcell => formatValue_injective hcell, fun hvalue => by rw [hvalue]⟩,
    valueOfCell?_formatValue v, valueType_eq_typeOfCell v,
    fun _ hc => space_le_of_mem_formatValue hc⟩

end Output

end SearchFilter
