import Mathlib.Data.List.Basic
import SearchFilter.Decimal

/-!
# The grammar of decimal numbers

A numeral is a sign, digits with an optional point and an optional exponent; each rule of the
grammar carries what it denotes.

* `exists_isNumeral_of_take?`: what is read is a numeral.
* `IsNumeral.take?_append`: a numeral is read to its end, in front of anything that does not
  continue it.
-/

namespace SearchFilter

namespace Decimal

/-! ### The grammar -/

/-- The text is decimal digits, of any scripts, with these values. -/
def IsDigits (text : Text) (values : List Nat) : Prop :=
  text.map Text.digitValue? = values.map some

/-- A sign, which may be left out; true stands for minus. -/
inductive IsSign : Text → Bool → Prop where
  | absent : IsSign [] false
  | plus : IsSign ['+'] false
  | minus : IsSign ['-'] true

/-- Digits, or digits with a point in, behind or in front of them. -/
inductive IsMantissa : Text → List Nat → List Nat → Prop where
  | whole {text : Text} {values : List Nat} (h : IsDigits text values) (hne : values ≠ []) :
    IsMantissa text values []
  | point {front back : Text} {whole part : List Nat} (hw : IsDigits front whole)
    (hp : IsDigits back part) (hne : whole ≠ [] ∨ part ≠ []) :
    IsMantissa (front ++ '.' :: back) whole part

/-- An exponent, which may be left out. -/
inductive IsExponent : Text → Int → Prop where
  | absent : IsExponent [] 0
  | written {mark : Char} {sign digits : Text} {negative : Bool} {values : List Nat}
    (hmark : mark = 'e' ∨ mark = 'E') (hs : IsSign sign negative) (hd : IsDigits digits values)
    (hne : values ≠ []) :
    IsExponent (mark :: sign ++ digits)
      (if negative then -(ofDigits values : Int) else ofDigits values)

/-- A numeral, with the decimal that it denotes. -/
inductive IsNumeral : Text → Decimal → Prop where
  | mk {sign mantissa exponent : Text} {negative : Bool} {whole part : List Nat} {power : Int}
    (hs : IsSign sign negative) (hm : IsMantissa mantissa whole part)
    (he : IsExponent exponent power) :
    IsNumeral (sign ++ mantissa ++ exponent)
      ⟨negative, ofDigits (whole ++ part), power - part.length⟩

/-- The text does not go on with a digit. -/
def NoDigit (text : Text) : Prop := ∀ c ∈ text.head?, Text.digitValue? c = none

/-- The text does not go on with anything that a numeral could take in. -/
def EndsNumeral (text : Text) : Prop :=
  ∀ c ∈ text.head?, Text.digitValue? c = none ∧ c ≠ '.' ∧ c ≠ 'e' ∧ c ≠ 'E'

theorem EndsNumeral.noDigit {text : Text} (h : EndsNumeral text) : NoDigit text :=
  fun c hc => (h c hc).1

theorem noDigit_cons {c : Char} {text : Text} (h : Text.digitValue? c = none) :
    NoDigit (c :: text) := by
  intro d hd
  obtain rfl : c = d := by simpa using hd
  exact h

theorem noDigit_nil : NoDigit [] := fun _ hc => absurd hc (by simp)

/-! ### Digits -/

theorem IsDigits.nil : IsDigits [] [] := rfl

theorem isDigits_cons {c : Char} {text : Text} {values : List Nat} :
    IsDigits (c :: text) values ↔
      ∃ d more, values = d :: more ∧ Text.digitValue? c = some d ∧ IsDigits text more := by
  constructor
  · intro h
    cases values with
    | nil => exact absurd h (List.cons_ne_nil _ _)
    | cons d more =>
      obtain ⟨hd, hmore⟩ := List.cons.inj h
      exact ⟨d, more, rfl, hd, hmore⟩
  · rintro ⟨d, more, rfl, hd, hmore⟩
    rw [IsDigits, List.map_cons, List.map_cons, hd, hmore]

theorem IsDigits.eq_nil {values : List Nat} (h : IsDigits [] values) : values = [] :=
  List.map_eq_nil_iff.1 h.symm

theorem IsDigits.isDigit_of_mem {text : Text} {values : List Nat} (h : IsDigits text values)
    {c : Char} (hc : c ∈ text) : Text.isDigit c = true := by
  have hmem : Text.digitValue? c ∈ values.map some := h ▸ List.mem_map_of_mem hc
  obtain ⟨d, _, hd⟩ := List.mem_map.1 hmem
  rw [Text.isDigit, ← hd]
  rfl

theorem isDigits_takeDigits (text : Text) :
    ∃ front, text = front ++ (takeDigits text).2 ∧ IsDigits front (takeDigits text).1 :=
  takeDigits_append text

/-- Digits are taken up to the first character that is none. -/
theorem IsDigits.takeDigits_append {digits rest : Text} {values : List Nat}
    (h : IsDigits digits values) (hrest : NoDigit rest) :
    takeDigits (digits ++ rest) = (values, rest) := by
  induction digits generalizing values with
  | nil =>
    rw [h.eq_nil, List.nil_append]
    cases rest with
    | nil => rfl
    | cons c rest =>
      have hc : Text.digitValue? c = none := hrest c rfl
      simp [takeDigits, hc]
  | cons c digits ih =>
    obtain ⟨d, more, rfl, hd, hmore⟩ := isDigits_cons.1 h
    simp [takeDigits, hd, ih hmore]

/-! ### Signs -/

theorem isSign_takeSign (text : Text) :
    ∃ sign, text = sign ++ (takeSign text).2 ∧ IsSign sign (takeSign text).1 := by
  unfold takeSign
  split
  · exact ⟨['-'], rfl, .minus⟩
  · exact ⟨['+'], rfl, .plus⟩
  · exact ⟨[], rfl, .absent⟩

theorem IsSign.takeSign_append {sign rest : Text} {negative : Bool} (h : IsSign sign negative)
    (hrest : ∀ c ∈ rest.head?, c ≠ '-' ∧ c ≠ '+') : takeSign (sign ++ rest) = (negative, rest) := by
  cases h with
  | absent =>
    rw [List.nil_append]
    unfold takeSign
    split
    · exact absurd rfl (hrest _ rfl).1
    · exact absurd rfl (hrest _ rfl).2
    · rfl
  | plus => rfl
  | minus => rfl

/-! ### Mantissas -/

theorem isMantissa_takeMantissa? {text rest : Text} {whole part : List Nat}
    (h : takeMantissa? text = some (whole, part, rest)) :
    ∃ mantissa, text = mantissa ++ rest ∧ IsMantissa mantissa whole part := by
  obtain ⟨front, htext, hfront⟩ := isDigits_takeDigits text
  simp only [takeMantissa?] at h
  split at h
  · next behind hbehind =>
    obtain ⟨back, hback, hpart⟩ := isDigits_takeDigits behind
    split at h
    · simp at h
    · next hne =>
      obtain ⟨rfl, htail⟩ := Prod.mk.inj (Option.some.inj h)
      obtain ⟨rfl, rfl⟩ := Prod.mk.inj htail
      refine ⟨front ++ '.' :: back, ?_, .point hfront hpart ?_⟩
      · rw [List.append_assoc, List.cons_append, ← hback, ← hbehind]
        exact htext
      · simpa [or_iff_not_imp_left] using hne
  · split at h
    · simp at h
    · next hne =>
      obtain ⟨rfl, htail⟩ := Prod.mk.inj (Option.some.inj h)
      obtain ⟨rfl, rfl⟩ := Prod.mk.inj htail
      exact ⟨front, htext, .whole hfront (by simpa using hne)⟩

theorem IsMantissa.takeMantissa?_append {mantissa rest : Text} {whole part : List Nat}
    (h : IsMantissa mantissa whole part) (hrest : NoDigit rest)
    (hpoint : ∀ c ∈ rest.head?, c ≠ '.') :
    takeMantissa? (mantissa ++ rest) = some (whole, part, rest) := by
  cases h with
  | whole h hne =>
    simp only [takeMantissa?, h.takeDigits_append hrest]
    split
    · exact absurd rfl (hpoint _ rfl)
    · rw [if_neg (by simpa using hne)]
  | @point front back _ _ hw hp hne =>
    have hfront : NoDigit ('.' :: (back ++ rest)) := noDigit_cons (by decide)
    have htake : takeDigits (front ++ '.' :: back ++ rest) = (whole, '.' :: (back ++ rest)) := by
      rw [List.append_assoc]
      exact hw.takeDigits_append hfront
    simp only [takeMantissa?, htake, hp.takeDigits_append hrest]
    rw [if_neg (by simpa [or_iff_not_imp_left] using hne)]

/-! ### Exponents -/

theorem isExponent_takeExponent? {text rest : Text} {power : Int}
    (h : takeExponent? text = some (power, rest)) :
    ∃ exponent, text = exponent ++ rest ∧ IsExponent exponent power := by
  cases text with
  | nil =>
    obtain ⟨rfl, rfl⟩ := Prod.mk.inj (Option.some.inj h)
    exact ⟨[], rfl, .absent⟩
  | cons c text =>
    rw [takeExponent?] at h
    split at h
    · next hmark =>
      obtain ⟨sign, hsign, hs⟩ := isSign_takeSign text
      obtain ⟨digits, hdigits, hd⟩ := isDigits_takeDigits (takeSign text).2
      dsimp only at h
      split at h
      · simp at h
      · next hne =>
        obtain ⟨rfl, rfl⟩ := Prod.mk.inj (Option.some.inj h)
        refine ⟨c :: sign ++ digits, ?_, .written ?_ hs hd ?_⟩
        · rw [List.append_assoc, ← hdigits, List.cons_append, ← hsign]
        · simpa using hmark
        · simpa using hne
    · obtain ⟨rfl, rfl⟩ := Prod.mk.inj (Option.some.inj h)
      exact ⟨[], rfl, .absent⟩

/-- A text of digits starts with no sign. -/
theorem IsDigits.head_ne_sign {digits rest : Text} {values : List Nat} (h : IsDigits digits values)
    (hne : values ≠ []) : ∀ c ∈ (digits ++ rest).head?, c ≠ '-' ∧ c ≠ '+' := by
  cases digits with
  | nil => exact absurd h.eq_nil hne
  | cons d digits =>
    intro c hc
    obtain rfl : d = c := by simpa using hc
    have hdigit := h.isDigit_of_mem List.mem_cons_self
    constructor
    · rintro rfl
      exact absurd hdigit (by decide)
    · rintro rfl
      exact absurd hdigit (by decide)

theorem IsExponent.takeExponent?_append {exponent rest : Text} {power : Int}
    (h : IsExponent exponent power) (hrest : EndsNumeral rest) :
    takeExponent? (exponent ++ rest) = some (power, rest) := by
  cases h with
  | absent =>
    cases rest with
    | nil => rfl
    | cons c rest =>
      obtain ⟨-, -, hlower, hupper⟩ := hrest c rfl
      rw [List.nil_append, takeExponent?, if_neg (by simp [hlower, hupper])]
  | @written mark sign digits negative values hmark hs hd hne =>
    have hsign : takeSign (sign ++ (digits ++ rest)) = (negative, digits ++ rest) :=
      hs.takeSign_append (hd.head_ne_sign hne)
    rw [List.append_assoc, List.cons_append, takeExponent?, if_pos (by simpa using hmark), hsign]
    simp only [hd.takeDigits_append hrest.noDigit]
    rw [if_neg (by simpa using hne)]

/-- What follows a mantissa starts with no digit and no point. -/
theorem IsExponent.head_append {exponent rest : Text} {power : Int} (h : IsExponent exponent power)
    (hrest : EndsNumeral rest) :
    ∀ c ∈ (exponent ++ rest).head?, Text.digitValue? c = none ∧ c ≠ '.' := by
  cases h with
  | absent => exact fun c hc => ⟨(hrest c hc).1, (hrest c hc).2.1⟩
  | @written mark sign digits negative values hmark hs hd hne =>
    intro c hc
    obtain rfl : mark = c := by simpa using hc
    rcases hmark with rfl | rfl
    · exact ⟨by decide, by decide⟩
    · exact ⟨by decide, by decide⟩

/-! ### Numerals -/

/-- What is read is a numeral, and the rest is behind it. -/
theorem exists_isNumeral_of_take? {text rest : Text} {decimal : Decimal}
    (h : take? text = some (decimal, rest)) :
    ∃ numeral, text = numeral ++ rest ∧ IsNumeral numeral decimal := by
  simp only [take?, Option.bind_eq_bind, Option.bind_eq_some_iff, Option.pure_def] at h
  obtain ⟨⟨whole, part, behind⟩, hmantissa, ⟨power, last⟩, hexponent, heq⟩ := h
  obtain ⟨rfl, rfl⟩ := Prod.mk.inj (Option.some.inj heq)
  obtain ⟨sign, htext, hs⟩ := isSign_takeSign text
  obtain ⟨mantissa, hbehind, hm⟩ := isMantissa_takeMantissa? hmantissa
  obtain ⟨exponent, hrest, he⟩ := isExponent_takeExponent? hexponent
  refine ⟨sign ++ mantissa ++ exponent, ?_, .mk hs hm he⟩
  rw [List.append_assoc, ← hrest, List.append_assoc, ← hbehind]
  exact htext

/-- A mantissa starts with no sign. -/
theorem IsMantissa.head_ne_sign {mantissa rest : Text} {whole part : List Nat}
    (h : IsMantissa mantissa whole part) :
    ∀ c ∈ (mantissa ++ rest).head?, c ≠ '-' ∧ c ≠ '+' := by
  cases h with
  | whole h hne => exact h.head_ne_sign hne
  | @point front back _ _ hw _ _ =>
    cases whole with
    | nil =>
      obtain rfl : front = [] := List.map_eq_nil_iff.1 hw
      intro c hc
      obtain rfl : '.' = c := by simpa using hc
      decide
    | cons d whole =>
      rw [List.append_assoc]
      exact hw.head_ne_sign (List.cons_ne_nil _ _)

/-- A numeral is read to its end. -/
theorem IsNumeral.take?_append {numeral rest : Text} {decimal : Decimal}
    (h : IsNumeral numeral decimal) (hrest : EndsNumeral rest) :
    take? (numeral ++ rest) = some (decimal, rest) := by
  cases h with
  | @mk sign mantissa exponent negative whole part power hs hm he =>
    -- each reader stops where the next part begins
    have hsign : takeSign (sign ++ mantissa ++ exponent ++ rest) =
        (negative, mantissa ++ (exponent ++ rest)) := by
      rw [List.append_assoc, List.append_assoc]
      exact hs.takeSign_append hm.head_ne_sign
    have hhead := he.head_append hrest
    have hmantissa := hm.takeMantissa?_append (fun c hc => (hhead c hc).1)
      fun c hc => (hhead c hc).2
    simp only [take?, hsign, hmantissa, he.takeExponent?_append hrest, Option.bind_eq_bind,
      Option.bind_some, Option.pure_def]

/-- A numeral by itself is read as what it denotes. -/
theorem IsNumeral.ofText?_eq {numeral : Text} {decimal : Decimal} (h : IsNumeral numeral decimal) :
    ofText? numeral = some decimal := by
  have hend : EndsNumeral [] := fun c hc => absurd hc (by simp)
  have htake := h.take?_append hend
  rw [List.append_nil] at htake
  rw [ofText?, htake]

theorem IsDigits.any_isDigit {text : Text} {values : List Nat} (h : IsDigits text values)
    (hne : values ≠ []) : text.any Text.isDigit = true := by
  cases text with
  | nil => exact absurd h.eq_nil hne
  | cons c text => rw [List.any_cons, h.isDigit_of_mem List.mem_cons_self, Bool.true_or]

theorem IsMantissa.any_isDigit {mantissa : Text} {whole part : List Nat}
    (h : IsMantissa mantissa whole part) : mantissa.any Text.isDigit = true := by
  cases h with
  | whole h hne => exact h.any_isDigit hne
  | point hw hp hne =>
    rw [List.any_append, List.any_cons, Bool.or_eq_true, Bool.or_eq_true]
    rcases hne with hne | hne
    · exact Or.inl (hw.any_isDigit hne)
    · exact Or.inr (Or.inr (hp.any_isDigit hne))

/-- A numeral has a digit. -/
theorem IsNumeral.any_isDigit {numeral : Text} {decimal : Decimal} (h : IsNumeral numeral decimal) :
    numeral.any Text.isDigit = true := by
  cases h with
  | mk hs hm he =>
    rw [List.any_append, List.any_append, hm.any_isDigit, Bool.or_true, Bool.true_or]

end Decimal

end SearchFilter
