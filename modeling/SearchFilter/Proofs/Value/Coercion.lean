import SearchFilter.Proofs.Value.NumberLiteral

/-!
# What the coercion of a raw value accepts

The grammar of what is accepted, and how the coercion fails.

Two notions of white space meet in it: the form of a number admits all white space around the
numeral, the conversion trims all but the information separators. A raw value between the two is
unreadable.

* `readNumber?_eq_some_iff`: the reader against the grammar.
* `ofRaw_cases`: how a coercion can end, and exactly when it ends in its one fault.
-/

namespace SearchFilter

/-! ### White space and numerals -/

namespace Text

theorem isBlank_digits : ∀ start ∈ digitZeros, ∀ k < 10,
    isBlank (Char.ofNat (start + k)) = false := by
  decide +kernel

/-- A digit of any script is no white space. -/
theorem isBlank_of_isDigit {c : Char} (h : isDigit c = true) : isBlank c = false := by
  obtain ⟨d, hd⟩ := Option.isSome_iff_exists.1 h
  obtain ⟨start, hfind, -⟩ := Option.map_eq_some_iff.1 hd
  have hrange := List.find?_some hfind
  simp only [Bool.and_eq_true, decide_eq_true_eq] at hrange
  have hblank := isBlank_digits start (List.mem_of_find?_eq_some hfind) (c.toNat - start) (by omega)
  rwa [Nat.add_sub_cancel' hrange.1, Char.ofNat_toNat] at hblank

/-- White space ends a numeral. -/
theorem endsNumeral_of_forall_isBlank {text : Text} (h : ∀ c ∈ text, isBlank c = true) :
    Decimal.EndsNumeral text := by
  intro c hc
  have hblank := h c (List.mem_of_mem_head? hc)
  refine ⟨?_, ?_, ?_, ?_⟩
  · by_contra hdigit
    have hisDigit : isDigit c = true := Option.isSome_iff_ne_none.2 hdigit
    rw [isBlank_of_isDigit hisDigit] at hblank
    exact Bool.false_ne_true hblank
  all_goals
    rintro rfl
    exact absurd hblank (by decide)

end Text

namespace Decimal

theorem IsDigits.not_isBlank {text : Text} {values : List Nat} (h : IsDigits text values) :
    ∀ c ∈ text, Text.isBlank c = false :=
  fun _ hc => Text.isBlank_of_isDigit (h.isDigit_of_mem hc)

theorem IsSign.not_isBlank {text : Text} {negative : Bool} (h : IsSign text negative) :
    ∀ c ∈ text, Text.isBlank c = false := by
  cases h with
  | absent => exact List.forall_mem_nil _
  | plus => exact List.forall_mem_singleton.2 (by decide)
  | minus => exact List.forall_mem_singleton.2 (by decide)

/-- No character of a numeral is white space. -/
theorem IsNumeral.not_isBlank {numeral : Text} {decimal : Decimal} (h : IsNumeral numeral decimal) :
    ∀ c ∈ numeral, Text.isBlank c = false := by
  cases h with
  | @mk sign mantissa exponent negative whole part power hs hm he =>
    have hmantissa : ∀ c ∈ mantissa, Text.isBlank c = false := by
      cases hm with
      | whole h _ => exact h.not_isBlank
      | point hw hp _ =>
        rw [List.forall_mem_append, List.forall_mem_cons]
        exact ⟨hw.not_isBlank, by decide, hp.not_isBlank⟩
    have hexponent : ∀ c ∈ exponent, Text.isBlank c = false := by
      cases he with
      | absent => exact fun c hc => absurd hc List.not_mem_nil
      | @written mark _ _ _ _ hmark hs hd _ =>
        have hmark' : Text.isBlank mark = false := by
          rcases hmark with rfl | rfl
          · decide
          · decide
        rw [List.forall_mem_append, List.forall_mem_cons]
        exact ⟨⟨hmark', hs.not_isBlank⟩, hd.not_isBlank⟩
    rw [List.forall_mem_append, List.forall_mem_append]
    exact ⟨⟨hs.not_isBlank, hmantissa⟩, hexponent⟩

end Decimal

namespace Value

/-! ### Number texts -/

/-- A numeral with white space of some kind around it. -/
def IsNumberText (isSpace : Char → Bool) (text : Text) (decimal : Decimal) : Prop :=
  ∃ front numeral back, text = front ++ numeral ++ back ∧ (∀ c ∈ front, isSpace c = true) ∧
    (∀ c ∈ back, isSpace c = true) ∧ Decimal.IsNumeral numeral decimal

/-- The white space that the conversion of a number trims: all but the separators. -/
def isTrimmed (c : Char) : Bool := Text.isBlank c && !Text.isSeparator c

/-- A text has the form of a number, and not the form that the conversion reads. -/
def IsUnreadable (text : Text) : Prop :=
  (∃ decimal, IsNumberText Text.isBlank text decimal) ∧
    ¬ ∃ decimal, IsNumberText isTrimmed text decimal

/-- What is read is a numeral between white space, and the white space is all there is. -/
theorem readNumber?_eq_some_iff {text around : Text} {decimal : Decimal} :
    readNumber? text = some (decimal, around) ↔
      ∃ front numeral back, text = front ++ numeral ++ back ∧
        (∀ c ∈ front, Text.isBlank c = true) ∧ (∀ c ∈ back, Text.isBlank c = true) ∧
        Decimal.IsNumeral numeral decimal ∧ around = front ++ back := by
  constructor
  · intro h
    simp only [readNumber?, Option.bind_eq_bind, Option.bind_eq_some_iff] at h
    obtain ⟨⟨decimal', rest⟩, htake, h⟩ := h
    split at h
    · next hrest =>
      obtain ⟨rfl, rfl⟩ := Prod.mk.inj (Option.some.inj h)
      obtain ⟨numeral, hnumeral, hn⟩ := Decimal.exists_isNumeral_of_take? htake
      refine ⟨text.takeWhile Text.isBlank, numeral, rest, ?_, ?_, ?_, hn, rfl⟩
      · rw [List.append_assoc, ← hnumeral, List.takeWhile_append_dropWhile]
      · exact List.all_eq_true.1 List.all_takeWhile
      · exact List.all_eq_true.1 hrest
    · simp at h
  · rintro ⟨front, numeral, back, rfl, hfront, hback, hn, rfl⟩
    have hblank := hn.not_isBlank
    have htake := hn.take?_append (Text.endsNumeral_of_forall_isBlank hback)
    -- the numeral begins with no white space, so that it is clear where it begins
    cases numeral with
    | nil => exact absurd hn.any_isDigit (by decide)
    | cons c numeral =>
      have hc : Text.isBlank c ≠ true := by
        rw [hblank c List.mem_cons_self]
        exact Bool.false_ne_true
      have hdrop : (front ++ (c :: numeral) ++ back).dropWhile Text.isBlank =
          c :: numeral ++ back := by
        rw [List.append_assoc, List.dropWhile_append_of_pos hfront, List.cons_append,
          List.dropWhile_cons_of_neg hc]
      have htakeWhile : (front ++ (c :: numeral) ++ back).takeWhile Text.isBlank = front := by
        rw [List.append_assoc, List.takeWhile_append_of_pos hfront, List.cons_append,
          List.takeWhile_cons_of_neg hc, List.append_nil]
      simp only [readNumber?, hdrop, htakeWhile, htake, Option.bind_eq_bind, Option.bind_some]
      rw [if_pos (List.all_eq_true.2 hback)]

theorem exists_isNumberText_iff {text : Text} :
    (∃ decimal, IsNumberText Text.isBlank text decimal) ↔
      ∃ decimal around, readNumber? text = some (decimal, around) := by
  constructor
  · rintro ⟨decimal, front, numeral, back, htext, hfront, hback, hn⟩
    exact ⟨decimal, front ++ back,
      readNumber?_eq_some_iff.2 ⟨front, numeral, back, htext, hfront, hback, hn, rfl⟩⟩
  · rintro ⟨decimal, around, h⟩
    obtain ⟨front, numeral, back, htext, hfront, hback, hn, -⟩ := readNumber?_eq_some_iff.1 h
    exact ⟨decimal, front, numeral, back, htext, hfront, hback, hn⟩

theorem isTrimmed_iff {c : Char} :
    isTrimmed c = true ↔ Text.isBlank c = true ∧ Text.isSeparator c = false := by
  rw [isTrimmed, Bool.and_eq_true, Bool.not_eq_true']

/-- A numeral with nothing around it but trimmed white space is what is read without separators. -/
theorem isNumberText_isTrimmed_iff {text : Text} {decimal : Decimal} :
    IsNumberText isTrimmed text decimal ↔
      ∃ around, readNumber? text = some (decimal, around) ∧
        around.any Text.isSeparator = false := by
  constructor
  · rintro ⟨front, numeral, back, htext, hfront, hback, hn⟩
    refine ⟨front ++ back, readNumber?_eq_some_iff.2 ⟨front, numeral, back, htext, ?_, ?_, hn, rfl⟩,
      ?_⟩
    · intro c hc
      exact (isTrimmed_iff.1 (hfront c hc)).1
    · intro c hc
      exact (isTrimmed_iff.1 (hback c hc)).1
    · -- what is trimmed is white space but no separator
      rw [List.any_eq_false]
      intro c hc
      have htrimmed := (List.mem_append.1 hc).elim (hfront c) (hback c)
      rw [(isTrimmed_iff.1 htrimmed).2]
      exact Bool.false_ne_true
  · rintro ⟨around, hread, hseparator⟩
    obtain ⟨front, numeral, back, htext, hfront, hback, hn, rfl⟩ := readNumber?_eq_some_iff.1 hread
    rw [List.any_append, Bool.or_eq_false_iff, List.any_eq_false, List.any_eq_false] at hseparator
    refine ⟨front, numeral, back, htext, ?_, ?_, hn⟩
    · intro c hc
      exact isTrimmed_iff.2 ⟨hfront c hc, Bool.eq_false_iff.2 (hseparator.1 c hc)⟩
    · intro c hc
      exact isTrimmed_iff.2 ⟨hback c hc, Bool.eq_false_iff.2 (hseparator.2 c hc)⟩

/-- A text that is read is unreadable exactly if there is a separator in its white space. -/
theorem isUnreadable_iff_of_readNumber? {text around : Text} {decimal : Decimal}
    (h : readNumber? text = some (decimal, around)) :
    IsUnreadable text ↔ around.any Text.isSeparator = true := by
  have hform := exists_isNumberText_iff.2 ⟨decimal, around, h⟩
  rw [IsUnreadable, and_iff_right hform]
  constructor
  · intro hno
    by_contra hseparator
    have hnumber := isNumberText_isTrimmed_iff.2 ⟨around, h, Bool.eq_false_iff.2 hseparator⟩
    exact hno ⟨decimal, hnumber⟩
  · rintro hseparator ⟨decimal', hnumber⟩
    -- the white space around a numeral is determined, so the two readings are one
    obtain ⟨around', h', hnone⟩ := isNumberText_isTrimmed_iff.1 hnumber
    rw [h, Option.some.injEq, Prod.mk.injEq] at h'
    rw [← h'.2, hseparator] at hnone
    cases hnone

/-! ### How the conversions end -/

/-- A number is returned for a number text with a finite value, and it is that value. -/
theorem toNumber_eq_ok_iff {field : Option Text} {text : Text} {x : Binary64} :
    toNumber field text = .ok x ↔
      ∃ decimal, IsNumberText isTrimmed text decimal ∧
        (Binary64.ofDecimal decimal).isFinite = true ∧ Binary64.ofDecimal decimal = x := by
  constructor
  · intro h
    unfold toNumber at h
    split at h
    · cases h
    · next decimal around hread =>
      split at h
      · cases h
      · next hseparator =>
        dsimp only at h
        split at h
        · next hfinite =>
          have hnumber := isNumberText_isTrimmed_iff.2
            ⟨around, hread, Bool.eq_false_iff.2 hseparator⟩
          exact ⟨decimal, hnumber, hfinite, Except.ok.inj h⟩
        · cases h
  · rintro ⟨decimal, hnumber, hfinite, rfl⟩
    obtain ⟨around, hread, hseparator⟩ := isNumberText_isTrimmed_iff.1 hnumber
    rw [toNumber, hread]
    dsimp only
    rw [if_neg (Bool.eq_false_iff.1 hseparator), if_pos hfinite]

/-- Without white space around it a numeral is converted, unless it is too large. -/
theorem toNumber_of_isNumeral (field : Option Text) {text : Text} {decimal : Decimal}
    (h : Decimal.IsNumeral text decimal) :
    toNumber field text =
      if (Binary64.ofDecimal decimal).isFinite then .ok (Binary64.ofDecimal decimal)
      else .error (.query (.valueCoercion text "number".toList field)) := by
  have hread : readNumber? text = some (decimal, []) :=
    readNumber?_eq_some_iff.2 ⟨[], text, [], by simp, by simp, by simp, h, rfl⟩
  rw [toNumber, hread]
  rfl

/-- The three ends of the conversion of a number. -/
theorem toNumber_cases (field : Option Text) (text : Text) :
    IsUnreadable text ∧ toNumber field text = .error (.fault (.unreadableNumber text)) ∨
    ¬ IsUnreadable text ∧
      (toNumber field text = .error (.query (.valueCoercion text "number".toList field)) ∨
        ∃ x : Binary64, x.isFinite = true ∧ toNumber field text = .ok x) := by
  cases hread : readNumber? text with
  | none =>
    have hno : ¬ IsUnreadable text := by
      rintro ⟨hform, -⟩
      obtain ⟨decimal, around, h⟩ := exists_isNumberText_iff.1 hform
      rw [hread] at h
      exact absurd h (by simp)
    exact Or.inr ⟨hno, Or.inl (by rw [toNumber, hread])⟩
  | some read =>
    obtain ⟨decimal, around⟩ := read
    -- what is read as a number fails for a separator around it, or for its size
    rw [isUnreadable_iff_of_readNumber? hread]
    by_cases hseparator : around.any Text.isSeparator = true
    · exact Or.inl ⟨hseparator, by simp [toNumber, hread, hseparator]⟩
    · refine Or.inr ⟨hseparator, ?_⟩
      by_cases hfinite : (Binary64.ofDecimal decimal).isFinite = true
      · exact Or.inr ⟨_, hfinite, by simp [toNumber, hread, hseparator, hfinite]⟩
      · exact Or.inl (by simp [toNumber, hread, hseparator, hfinite])

theorem toBoolean_cases (field : Option Text) (text : Text) :
    toBoolean field text = .error (.query (.valueCoercion text "boolean".toList field)) ∨
      ∃ b, toBoolean field text = .ok b := by
  unfold toBoolean
  dsimp only
  split
  · exact Or.inr ⟨true, rfl⟩
  · split
    · exact Or.inr ⟨false, rfl⟩
    · exact Or.inl rfl

/-! ### How the coercion ends -/

/-- The form of a number has a digit in it, so the unanchored matching takes it as one. -/
theorem looksNumeric_of_isUnreadable {text : Text} (h : IsUnreadable text) :
    looksNumeric .unanchored text = true := by
  obtain ⟨⟨decimal, front, numeral, back, rfl, _, _, hn⟩, -⟩ := h
  rw [looksNumeric, List.any_append, List.any_append, hn.any_isDigit, Bool.or_true, Bool.true_or]

/-- What is a number literal as a whole has no white space around it, and is read. -/
theorem not_isUnreadable_of_isNumberLiteral {text : Text} (h : isNumberLiteral text = true) :
    ¬ IsUnreadable text := by
  obtain ⟨decimal, hliteral⟩ := isNumberLiteral_iff.1 h
  rintro ⟨-, hno⟩
  exact hno ⟨decimal, [], text, [], by simp, by simp, by simp, hliteral.isNumeral⟩

/-- The three ends of a coercion. Its one fault is that of an unreadable value, and only the
unanchored matching comes to it. -/
theorem ofRaw_cases (matching : Matching) (field : Option Text) (text : Text) :
    (matching = .unanchored ∧ IsUnreadable text) ∧
      ofRaw matching field text = .error (.fault (.unreadableNumber text)) ∨
    ¬ (matching = .unanchored ∧ IsUnreadable text) ∧
      ((∃ kind, ofRaw matching field text = .error (.query (.valueCoercion text kind field))) ∨
        ∃ value, value.toJson.isFinite = true ∧ ofRaw matching field text = .ok value) := by
  by_cases hnumeric : looksNumeric matching text = true
  · rw [ofRaw, if_pos hnumeric]
    -- what is a number as a whole is read, so that anchored matching never comes here
    have hmatching : IsUnreadable text → matching = .unanchored := by
      intro hunreadable
      cases matching with
      | unanchored => rfl
      | anchored => exact absurd hunreadable (not_isUnreadable_of_isNumberLiteral hnumeric)
    rw [and_iff_right_of_imp hmatching]
    rcases toNumber_cases field text with ⟨hu, h⟩ | ⟨hu, h | ⟨x, hfinite, h⟩⟩
    · exact Or.inl ⟨hu, by rw [h]; rfl⟩
    · exact Or.inr ⟨hu, Or.inl ⟨_, by rw [h]; rfl⟩⟩
    · exact Or.inr ⟨hu, Or.inr ⟨.number x, hfinite, by rw [h]; rfl⟩⟩
  · have hno : ¬ (matching = .unanchored ∧ IsUnreadable text) := by
      rintro ⟨rfl, hunreadable⟩
      exact hnumeric (looksNumeric_of_isUnreadable hunreadable)
    refine Or.inr ⟨hno, ?_⟩
    rw [ofRaw, if_neg hnumeric]
    split
    · rcases toBoolean_cases field text with h | ⟨b, h⟩
      · exact Or.inl ⟨_, by rw [h]; rfl⟩
      · exact Or.inr ⟨.boolean b, rfl, by rw [h]; rfl⟩
    · exact Or.inr ⟨.string (trimQuotes text), rfl, rfl⟩

variable {matching : Matching} {field : Option Text} {text : Text}

theorem ofRaw_of_isUnreadable (field : Option Text)
    (h : matching = .unanchored ∧ IsUnreadable text) :
    ofRaw matching field text = .error (.fault (.unreadableNumber text)) := by
  rcases ofRaw_cases matching field text with ⟨-, hfault⟩ | ⟨hread, -⟩
  · exact hfault
  · exact absurd h hread

/-- The coercion of a value that is not unreadable fails with the error for values only. -/
theorem exists_kind_of_ofRaw {failure : Failure}
    (hread : ¬ (matching = .unanchored ∧ IsUnreadable text))
    (h : ofRaw matching field text = .error failure) :
    ∃ kind, failure = .query (.valueCoercion text kind field) := by
  rcases ofRaw_cases matching field text with ⟨hunreadable, -⟩ | ⟨-, ⟨kind, hkind⟩ | ⟨_, -, hok⟩⟩
  · exact absurd hunreadable hread
  · rw [hkind] at h
    exact ⟨kind, (Except.error.inj h).symm⟩
  · rw [hok] at h
    cases h

/-- No number comes out of the coercion that is not finite. -/
theorem isFinite_of_ofRaw {value : Value} (h : ofRaw matching field text = .ok value) :
    value.toJson.isFinite = true := by
  rcases ofRaw_cases matching field text with ⟨-, hfault⟩ | ⟨-, ⟨_, hkind⟩ | ⟨_, hfinite, hok⟩⟩
  · rw [hfault] at h
    cases h
  · rw [hkind] at h
    cases h
  · rw [hok] at h
    rwa [← Except.ok.inj h]

/-- The field is named in errors only, so a value is the same for every field. -/
theorem toNumber_congr_field {x : Binary64} (h : toNumber field text = .ok x)
    (other : Option Text) : toNumber other text = .ok x :=
  toNumber_eq_ok_iff.2 (toNumber_eq_ok_iff.1 h)

theorem toBoolean_congr_field {b : Bool} (h : toBoolean field text = .ok b)
    (other : Option Text) : toBoolean other text = .ok b := by
  unfold toBoolean at h ⊢
  dsimp only at h ⊢
  split at h
  · next htrue => rwa [if_pos htrue]
  · next htrue =>
    rw [if_neg htrue]
    split at h
    · next hfalse => rwa [if_pos hfalse]
    · cases h

theorem ofRaw_congr_field {value : Value} (h : ofRaw matching field text = .ok value)
    (other : Option Text) : ofRaw matching other text = .ok value := by
  -- the field only shows in errors, so both readings go the same way
  unfold ofRaw at h ⊢
  split at h
  · next hnumeric =>
    rw [if_pos hnumeric]
    cases hnumber : toNumber field text with
    | error failure =>
      rw [hnumber] at h
      cases h
    | ok x =>
      rw [hnumber] at h
      rw [toNumber_congr_field hnumber other]
      exact h
  · next hnumeric =>
    rw [if_neg hnumeric]
    split at h
    · next htrue =>
      rw [if_pos htrue]
      cases hboolean : toBoolean field text with
      | error failure =>
        rw [hboolean] at h
        cases h
      | ok b =>
        rw [hboolean] at h
        rw [toBoolean_congr_field hboolean other]
        exact h
    · next htrue => rwa [if_neg htrue]

end Value

end SearchFilter
