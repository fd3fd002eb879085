import SearchFilter.Proofs.Value.Unanchored

/-!
# The anchored coercion beside the unanchored one

Anchored matching takes a text for a number or a truth value only if it is one as a whole;
unanchored matching is content with a part of it. The two agree on the texts that are literals and
on those in which no literal occurs. On every other text the anchored coercion keeps the string, and
the unanchored one never does.

A number literal has no white space around it, and so nothing stands in the way of its conversion
but its size.

* `ofRaw_anchored_eq_error_iff`: what the anchored coercion refuses.
* `ofRaw_anchored_unanchored`: where the two agree, and what each does elsewhere.
-/

namespace SearchFilter

/-- A decimal whose value is not finite overflows, to the infinity of its own sign. -/
theorem Binary64.ofDecimal_eq_infinite_iff {decimal : Decimal} :
    ofDecimal decimal = .infinite decimal.negative ↔ (ofDecimal decimal).isFinite = false := by
  -- only a quotient that is rounded can reach the limit
  have hunits : ∀ n d, (ofUnits decimal.negative n d).isFinite = false →
      ofUnits decimal.negative n d = .infinite decimal.negative := by
    intro n d h
    unfold ofUnits at h ⊢
    dsimp only at h ⊢
    split at h
    · cases h
    · next hlimit => exact dif_neg hlimit
  constructor
  · intro h
    rw [h]
    rfl
  · intro h
    unfold ofDecimal at h ⊢
    dsimp only at h ⊢
    split_ifs at h ⊢
    · cases h
    · rfl
    · cases h
    · cases hexponent : decimal.exponent with
      | ofNat up =>
        rw [hexponent] at h
        exact hunits _ _ h
      | negSucc down =>
        rw [hexponent] at h
        exact hunits _ _ h

namespace Value

/-! ### Literals -/

/-- A text is a literal as a whole: a number or a word for a truth value. -/
def IsLiteral (text : Text) : Prop :=
  (∃ decimal, IsNumberLiteral text decimal) ∨ ∃ b, text = Literal.booleanText b

variable {field : Option Text} {text : Text} {decimal : Decimal}

theorem looksNumeric_anchored_iff :
    looksNumeric .anchored text = true ↔ ∃ decimal, IsNumberLiteral text decimal :=
  isNumberLiteral_iff

theorem looksTrue_anchored_iff :
    looksTrue .anchored text = true ↔ ∃ b, text = Literal.booleanText b := by
  rw [looksTrue, isTruthLiteral, Bool.or_eq_true, beq_iff_eq, beq_iff_eq, Bool.exists_bool,
    or_comm]
  rfl

/-! ### The anchored coercion -/

theorem ofRaw_anchored_of_isNumberLiteral (field : Option Text)
    (h : ∃ decimal, IsNumberLiteral text decimal) :
    ofRaw .anchored field text = .number <$> toNumber field text :=
  if_pos (looksNumeric_anchored_iff.2 h)

theorem ofRaw_anchored_of_booleanText (field : Option Text)
    (hnumber : ¬ ∃ decimal, IsNumberLiteral text decimal)
    (h : ∃ b, text = Literal.booleanText b) :
    ofRaw .anchored field text = .boolean <$> toBoolean field text := by
  rw [ofRaw, if_neg (mt looksNumeric_anchored_iff.1 hnumber),
    if_pos (looksTrue_anchored_iff.2 h)]

/-- The anchored coercion makes a string of whatever is no literal. -/
theorem ofRaw_anchored_of_not_isLiteral (field : Option Text) (h : ¬ IsLiteral text) :
    ofRaw .anchored field text = .ok (.string (trimQuotes text)) := by
  rw [IsLiteral, not_or] at h
  rw [ofRaw, if_neg (mt looksNumeric_anchored_iff.1 h.1), if_neg (mt looksTrue_anchored_iff.1 h.2)]

/-- A number literal fails to be a number only by its size. -/
theorem ofRaw_anchored_eq_error_iff_of_isNumberLiteral (h : IsNumberLiteral text decimal)
    {failure : Failure} :
    ofRaw .anchored field text = .error failure ↔
      Binary64.ofDecimal decimal = .infinite decimal.negative ∧
        failure = .query (.valueCoercion text "number".toList field) := by
  rw [ofRaw_anchored_of_isNumberLiteral field ⟨decimal, h⟩, map_eq_error_iff,
    toNumber_of_isNumeral field h.isNumeral, Binary64.ofDecimal_eq_infinite_iff]
  cases (Binary64.ofDecimal decimal).isFinite with
  | true => simp
  | false => simp [eq_comm]

theorem ofRaw_anchored_booleanText (field : Option Text) (b : Bool) :
    ofRaw .anchored field (Literal.booleanText b) = .ok (.boolean b) := by
  cases b with
  | false => rfl
  | true => rfl

/-- The anchored coercion is refused in one way: as a number that is too large. -/
theorem ofRaw_anchored_eq_error_iff {failure : Failure} :
    ofRaw .anchored field text = .error failure ↔
      (∃ decimal, IsNumberLiteral text decimal ∧
        Binary64.ofDecimal decimal = .infinite decimal.negative) ∧
        failure = .query (.valueCoercion text "number".toList field) := by
  constructor
  · intro h
    by_cases hnumber : ∃ decimal, IsNumberLiteral text decimal
    · obtain ⟨decimal, hliteral⟩ := hnumber
      obtain ⟨hlarge, hfailure⟩ := (ofRaw_anchored_eq_error_iff_of_isNumberLiteral hliteral).1 h
      exact ⟨⟨decimal, hliteral, hlarge⟩, hfailure⟩
    · -- a word for a truth value and a string are both accepted
      exfalso
      by_cases hword : ∃ b, text = Literal.booleanText b
      · obtain ⟨b, rfl⟩ := hword
        rw [ofRaw_anchored_booleanText] at h
        cases h
      · rw [ofRaw_anchored_of_not_isLiteral field (not_or.2 ⟨hnumber, hword⟩)] at h
        cases h
  · rintro ⟨⟨decimal, hliteral, hlarge⟩, hfailure⟩
    exact (ofRaw_anchored_eq_error_iff_of_isNumberLiteral hliteral).2 ⟨hlarge, hfailure⟩

/-! ### The two coercions -/

theorem IsNumberLiteral.hasDigit (h : IsNumberLiteral text decimal) : HasDigit text :=
  List.any_eq_true.1 h.isNumeral.any_isDigit

theorem not_hasDigit_booleanText (b : Bool) : ¬ HasDigit (Literal.booleanText b) := by
  rw [HasDigit, ← List.any_eq_true]
  revert b
  decide

/-- On a literal the two coercions do the same conversion. -/
theorem ofRaw_anchored_eq_of_isLiteral (field : Option Text) (h : IsLiteral text) :
    ofRaw .anchored field text = ofRaw .unanchored field text := by
  rcases h with hnumber | ⟨b, rfl⟩
  · obtain ⟨decimal, hliteral⟩ := hnumber
    rw [ofRaw_anchored_of_isNumberLiteral field ⟨decimal, hliteral⟩,
      ofRaw_of_hasDigit field hliteral.hasDigit]
  · have hdigit := not_hasDigit_booleanText b
    have hnumber : ¬ ∃ decimal, IsNumberLiteral (Literal.booleanText b) decimal := by
      rintro ⟨decimal, hliteral⟩
      exact hdigit hliteral.hasDigit
    rw [ofRaw_anchored_of_booleanText field hnumber ⟨b, rfl⟩,
      ofRaw_of_hasTruthWord field hdigit ⟨b, List.infix_rfl⟩]

/-- A literal has a digit or is a word for a truth value, so a text without either is none. -/
theorem not_isLiteral (hdigit : ¬ HasDigit text) (hword : ¬ HasTruthWord text) :
    ¬ IsLiteral text := by
  rintro (⟨decimal, hliteral⟩ | ⟨b, rfl⟩)
  · exact hdigit hliteral.hasDigit
  · exact hword ⟨b, List.infix_rfl⟩

/-- A text in which a digit or a word for a truth value stands is never a string to the unanchored
coercion. -/
theorem ofRaw_unanchored_ne_string (field : Option Text) (h : HasDigit text ∨ HasTruthWord text)
    (string : Text) : ofRaw .unanchored field text ≠ .ok (.string string) := by
  intro hstring
  by_cases hdigit : HasDigit text
  · obtain ⟨_, -, -, hvalue⟩ := (ofRaw_eq_ok_iff_of_hasDigit hdigit).1 hstring
    cases hvalue
  · have hword : HasTruthWord text := h.resolve_left hdigit
    obtain ⟨_, -, hvalue⟩ := (ofRaw_eq_ok_iff_of_hasTruthWord hdigit hword).1 hstring
    cases hvalue

/-- The anchored coercion differs from the unanchored one on the texts that hold a digit or a word
for a truth value without being a literal, and on no others: there it keeps the string, and the
unanchored coercion makes a number or a truth value or refuses the text. So the anchored coercion
refuses nothing but the number literals that are too large, and those as numbers. -/
theorem ofRaw_anchored_unanchored (field : Option Text) (text : Text) :
    (ofRaw .anchored field text = ofRaw .unanchored field text ↔
      IsLiteral text ∨ ¬ HasDigit text ∧ ¬ HasTruthWord text) ∧
    (¬ (IsLiteral text ∨ ¬ HasDigit text ∧ ¬ HasTruthWord text) →
      ofRaw .anchored field text = .ok (.string (trimQuotes text)) ∧
      ∀ string, ofRaw .unanchored field text ≠ .ok (.string string)) ∧
    ((∃ failure, ofRaw .anchored field text = .error failure) ↔
      ∃ decimal, IsNumberLiteral text decimal ∧
        Binary64.ofDecimal decimal = .infinite decimal.negative) ∧
    ∀ failure, ofRaw .anchored field text = .error failure →
      failure = .query (.valueCoercion text "number".toList field) := by
  have hother : ¬ (IsLiteral text ∨ ¬ HasDigit text ∧ ¬ HasTruthWord text) →
      ofRaw .anchored field text = .ok (.string (trimQuotes text)) ∧
      ∀ string, ofRaw .unanchored field text ≠ .ok (.string string) := by
    intro h
    obtain ⟨hliteral, hpart⟩ := not_or.1 h
    have hpart : HasDigit text ∨ HasTruthWord text := by
      by_contra hnone
      exact hpart (not_or.1 hnone)
    exact ⟨ofRaw_anchored_of_not_isLiteral field hliteral, ofRaw_unanchored_ne_string field hpart⟩
  refine ⟨⟨fun hsame => ?_, ?_⟩, hother, ?_, ?_⟩
  · -- where they differ, one is the string that the other never is
    by_contra h
    obtain ⟨hstring, hnever⟩ := hother h
    exact hnever _ (hsame ▸ hstring)
  · rintro (hliteral | ⟨hdigit, hword⟩)
    · exact ofRaw_anchored_eq_of_isLiteral field hliteral
    · rw [ofRaw_anchored_of_not_isLiteral field (not_isLiteral hdigit hword),
        ofRaw_of_not_hasTruthWord field hdigit hword]
  · constructor
    · rintro ⟨failure, hfailure⟩
      exact (ofRaw_anchored_eq_error_iff.1 hfailure).1
    · intro hlarge
      exact ⟨_, ofRaw_anchored_eq_error_iff.2 ⟨hlarge, rfl⟩⟩
  · intro failure hfailure
    exact (ofRaw_anchored_eq_error_iff.1 hfailure).2

/-- An exponent is no part of a number literal. -/
example : ofRaw .anchored none "1e5".toList = .ok (.string "1e5".toList) := by
  decide

end Value

end SearchFilter
