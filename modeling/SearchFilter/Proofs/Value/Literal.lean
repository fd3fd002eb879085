import SearchFilter.Binary64.Decimal
import SearchFilter.Proofs.Text.Occurrence
import SearchFilter.Proofs.Value.Coercion

/-!
# Values as a query writes them

A string stands in double quotes, a number and a truth value stand bare.

* `PlainNumber.isNumberLiteral_text`: a plain number denotes the decimal that it was written from.
* `Literal.ofRaw_text`: what is written is what the anchored coercion reads.
-/

namespace SearchFilter

/-! ### Numbers, truth values and strings -/

/-- A number as it is written: a minus sign or none, digits, and a point with digits behind it if
there are any. -/
structure PlainNumber where
  negative : Bool
  whole : List (Fin 10)
  part : List (Fin 10)
  whole_ne_nil : whole ≠ []

namespace PlainNumber

/-- Digits as characters. -/
def digitText (digits : List (Fin 10)) : Text := digits.map fun d => Nat.digitChar d.val

/-- The sign of a number. -/
def signText (number : PlainNumber) : Text := if number.negative then ['-'] else []

/-- The number without its sign. -/
def mantissaText (number : PlainNumber) : Text :=
  if number.part = [] then digitText number.whole
  else digitText number.whole ++ '.' :: digitText number.part

/-- A number as it is written. -/
def text (number : PlainNumber) : Text := number.signText ++ number.mantissaText

/-- The number that is written. -/
def decimal (number : PlainNumber) : Decimal where
  negative := number.negative
  coefficient := Decimal.ofDigits ((number.whole ++ number.part).map Fin.val)
  exponent := -number.part.length

/-- The binary number next to the one that is written. -/
def value (number : PlainNumber) : Binary64 := Binary64.ofDecimal number.decimal

end PlainNumber

/-- A value as a query writes it. -/
inductive Literal where
  | number (n : PlainNumber)
  | boolean (b : Bool)
  | string (text : Text)

namespace Literal

/-- The word for a truth value. -/
def booleanText : Bool → Text
  | true => "true".toList
  | false => "false".toList

/-- A value as it is written. -/
def text : Literal → Text
  | number n => n.text
  | boolean b => booleanText b
  | string text => '"' :: text ++ ['"']

/-- The value that is written. -/
def value : Literal → Value
  | number n => .number n.value
  | boolean b => .boolean b
  | string text => .string text

/-- Numbers must be finite. A string must hold no double quote, for that would end it, and no
symbol that is sought before that of equality. -/
def IsWritable : Literal → Prop
  | number n => n.value.isFinite = true
  | boolean _ => True
  | string text => '"' ∉ text ∧ '<' ∉ text ∧ '>' ∉ text ∧ ¬ ['!', ':'] <:+: text

instance (literal : Literal) : Decidable literal.IsWritable :=
  match literal with
  | number n => inferInstanceAs (Decidable (n.value.isFinite = true))
  | boolean _ => inferInstanceAs (Decidable True)
  | string text =>
    inferInstanceAs (Decidable ('"' ∉ text ∧ '<' ∉ text ∧ '>' ∉ text ∧ ¬ ['!', ':'] <:+: text))

end Literal

/-! ### The characters of a number -/

namespace PlainNumber

theorem digitValue?_digitChar (d : Fin 10) :
    Text.digitValue? (Nat.digitChar d.val) = some d.val := by
  revert d
  decide

theorem isDigits_digitText (digits : List (Fin 10)) :
    Decimal.IsDigits (digitText digits) (digits.map Fin.val) := by
  rw [Decimal.IsDigits, digitText, List.map_map, List.map_map]
  exact List.map_congr_left fun d _ => digitValue?_digitChar d

/-- What is written is a number literal, and it denotes the number. -/
theorem isNumberLiteral_text (number : PlainNumber) :
    Value.IsNumberLiteral number.text number.decimal := by
  have hplain : Value.IsPlainNumber number.mantissaText (number.whole.map Fin.val)
      (number.part.map Fin.val) := by
    have hne : number.whole.map Fin.val ≠ [] := by simpa using number.whole_ne_nil
    unfold mantissaText
    split
    · next hpart =>
      rw [hpart]
      exact .whole (isDigits_digitText _) hne
    · next hpart =>
      exact .point (isDigits_digitText _) (isDigits_digitText _) hne (by simpa using hpart)
  have hdecimal : number.decimal = ⟨number.negative,
      Decimal.ofDigits (number.whole.map Fin.val ++ number.part.map Fin.val),
      -(number.part.map Fin.val).length⟩ := by
    rw [decimal, List.map_append, List.length_map]
  rw [hdecimal, text, signText]
  cases number.negative with
  | false => exact .unsigned hplain
  | true => exact .minus hplain

theorem digitChar_mem (d : Fin 10) : Nat.digitChar d.val ∈ "-.0123456789".toList := by
  revert d
  decide

/-- The characters that a number is written with. -/
theorem mem_of_mem_text {number : PlainNumber} {c : Char} (h : c ∈ number.text) :
    c ∈ "-.0123456789".toList := by
  have hdigit : ∀ digits, c ∈ digitText digits → c ∈ "-.0123456789".toList := by
    intro digits hc
    obtain ⟨d, -, rfl⟩ := List.mem_map.1 hc
    exact digitChar_mem d
  have hpoint : '.' ∈ "-.0123456789".toList := by decide
  have hminus : '-' ∈ "-.0123456789".toList := by decide
  rw [text, List.mem_append] at h
  rcases h with h | h
  · rw [signText] at h
    split at h
    · rwa [List.mem_singleton.1 h]
    · cases h
  · rw [mantissaText] at h
    split at h
    · exact hdigit _ h
    · rw [List.mem_append, List.mem_cons] at h
      rcases h with h | rfl | h
      · exact hdigit _ h
      · exact hpoint
      · exact hdigit _ h

theorem text_ne_nil (number : PlainNumber) : number.text ≠ [] := by
  intro h
  have hdigit := number.isNumberLiteral_text.isNumeral.any_isDigit
  rw [h] at hdigit
  cases hdigit

end PlainNumber

/-! ### Symbols in a value -/

namespace Literal

variable {literal : Literal}

theorem text_ne_nil (literal : Literal) : literal.text ≠ [] := by
  cases literal with
  | number n => exact n.text_ne_nil
  | boolean b => cases b <;> decide
  | string text => exact List.cons_ne_nil _ _

/-- The symbols of the comparisons do not occur in a value. -/
theorem not_mem_text (h : literal.IsWritable) : '<' ∉ literal.text ∧ '>' ∉ literal.text := by
  cases literal with
  | number n =>
    constructor
    · intro hc
      exact absurd (PlainNumber.mem_of_mem_text hc) (by decide)
    · intro hc
      exact absurd (PlainNumber.mem_of_mem_text hc) (by decide)
  | boolean b => cases b <;> decide
  | string text =>
    obtain ⟨-, hless, hgreater, -⟩ := h
    simp [Literal.text, hless, hgreater]

theorem not_infix_text (h : literal.IsWritable) : ¬ ['!', ':'] <:+: literal.text := by
  cases literal with
  | number n =>
    refine Text.not_infix_of_not_mem (c := ':') (by decide) fun hc => ?_
    exact absurd (PlainNumber.mem_of_mem_text hc) (by decide)
  | boolean b => cases b <;> exact Text.not_infix_of_not_mem (c := ':') (by decide) (by decide)
  | string text =>
    obtain ⟨-, -, -, hpair⟩ := h
    intro hinfix
    -- the quotes are no part of the symbol
    have hquoted : ['!', ':'] <:+: ['"'] ++ text ++ ['"'] := hinfix
    rcases Text.pair_infix_append hquoted with hfront | hback | ⟨-, hquote⟩
    · rcases Text.pair_infix_append hfront with hquote | htext | ⟨hquote, -⟩
      · exact absurd hquote (by decide)
      · exact hpair htext
      · exact absurd hquote (by decide)
    · exact absurd hback (by decide)
    · exact absurd hquote (by decide)

/-- No value goes on where a symbol ends in a sign of equality. -/
theorem head?_text (literal : Literal) : literal.text.head? ≠ some '=' := by
  cases literal with
  | number n =>
    intro h
    exact absurd (PlainNumber.mem_of_mem_text (List.mem_of_mem_head? h)) (by decide)
  | boolean b => cases b <;> decide
  | string text => exact fun h => absurd (Option.some.inj h) (by decide)

end Literal

/-! ### Coercion -/

namespace Literal

variable {literal : Literal}

/-- What is written is read back. -/
theorem ofRaw_text (h : literal.IsWritable) (field : Option Text) :
    Value.ofRaw .anchored field literal.text = .ok literal.value := by
  cases literal with
  | number n =>
    have hnumeric : Value.looksNumeric .anchored n.text = true :=
      Value.isNumberLiteral_iff.2 ⟨_, n.isNumberLiteral_text⟩
    have hfinite : (Binary64.ofDecimal n.decimal).isFinite = true := h
    rw [Literal.text, Value.ofRaw, if_pos hnumeric,
      Value.toNumber_of_isNumeral field n.isNumberLiteral_text.isNumeral, if_pos hfinite]
    rfl
  | boolean b =>
    have hnone : Value.ofRaw .anchored none (booleanText b) = .ok (.boolean b) := by
      cases b <;> decide +kernel
    exact Value.ofRaw_congr_field hnone field
  | string text =>
    have hnumber : Value.isNumberLiteral ('"' :: (text ++ ['"'])) = false := rfl
    have htruth : Value.isTruthLiteral ('"' :: (text ++ ['"'])) = false := rfl
    have htrim : Value.trimQuotes ('"' :: (text ++ ['"'])) = text := by simp [Value.trimQuotes]
    show Value.ofRaw .anchored field ('"' :: (text ++ ['"'])) = .ok (.string text)
    rw [Value.ofRaw_anchored hnumber htruth, htrim]

end Literal

end SearchFilter
