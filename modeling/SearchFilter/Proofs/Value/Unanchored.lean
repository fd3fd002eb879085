import SearchFilter.Proofs.Fold
import SearchFilter.Proofs.Text.Occurrence
import SearchFilter.Proofs.Value.Coercion
import SearchFilter.Proofs.Value.Literal

/-!
# What the unanchored coercion makes of a raw value

It is told from the text alone. A text with a digit in it is a number or nothing. A text without a
digit, but with a word for a truth value in it, is a truth value or nothing. Every other text is a
string.

White space is trimmed and letters are lower-cased before a truth value is compared with its word.
Neither makes a word of a text that holds one already and is not that word: trimming cannot cut into
the word, and what stands beside it stays there when it is lower-cased.

* `toBoolean_eq_ok_iff`: which texts convert to a truth value.
* `ofRaw_unanchored`: the three kinds of texts and what becomes of each.
-/

namespace SearchFilter

/-! ### Trimming and lower-casing -/

namespace Text

/-- What is dropped from the start of a text cuts into no word without dropped characters. -/
theorem infix_dropWhile {p : Char → Bool} {word text : Text} (hword : ∀ c ∈ word, p c = false)
    (h : word <:+: text) : word <:+: text.dropWhile p := by
  induction text with
  | nil => exact h
  | cons c text ih =>
    by_cases hc : p c = true
    · rw [List.dropWhile_cons_of_pos hc]
      apply ih
      rcases List.infix_cons_iff.1 h with hstart | hbehind
      · -- a word at the very start would begin with the dropped character
        have hnil : word = [] := by
          by_contra hne
          obtain ⟨d, rest, rfl⟩ := List.exists_cons_of_ne_nil hne
          have hd : d = c := (List.cons_prefix_cons.1 hstart).1
          have hkept := hword d List.mem_cons_self
          rw [hd, hc] at hkept
          exact Bool.false_ne_true hkept.symm
        rw [hnil]
        exact List.nil_infix
      · exact hbehind
    · rwa [List.dropWhile_cons_of_neg hc]

/-- A word without white space is still there in the trimmed text. -/
theorem infix_trim {word text : Text} (hword : ∀ c ∈ word, isBlank c = false)
    (h : word <:+: text) : word <:+: trim text := by
  have hreverse : ∀ c ∈ word.reverse, isBlank c = false := by
    intro c hc
    exact hword c (List.mem_reverse.1 hc)
  have hstart : word <:+: trimStart text := infix_dropWhile hword h
  rw [trim, trimEnd, ← List.reverse_infix, List.reverse_reverse]
  exact infix_dropWhile hreverse (List.reverse_infix.2 hstart)

theorem lowerCaseOf_ne_nil (c : Char) : lowerCaseOf c ≠ [] := by
  unfold lowerCaseOf
  split
  · exact List.cons_ne_nil _ _
  · split
    · exact List.cons_ne_nil _ _
    · exact List.cons_ne_nil _ _

/-- Lower-casing shortens no text. -/
theorem length_le_length_lowerCase (text : Text) : text.length ≤ (lowerCase text).length := by
  induction text with
  | nil => exact Nat.zero_le _
  | cons c text ih =>
    have hpos : 0 < (lowerCaseOf c).length := List.length_pos_of_ne_nil (lowerCaseOf_ne_nil c)
    have hcons : lowerCase (c :: text) = lowerCaseOf c ++ lowerCase text := List.flatMap_cons
    rw [hcons, List.length_append, List.length_cons]
    omega

/-- What occurs in a text occurs in lower case in the lower-cased text. -/
theorem lowerCase_infix {word text : Text} (h : word <:+: text) :
    lowerCase word <:+: lowerCase text := by
  obtain ⟨front, back, rfl⟩ := h
  rw [lowerCase, lowerCase, List.flatMap_append, List.flatMap_append]
  exact List.infix_append _ _ _

end Text

namespace Literal

/-! ### The words for truth values -/

theorem lowerCase_booleanText (b : Bool) : Text.lowerCase (booleanText b) = booleanText b := by
  revert b
  decide

theorem not_isBlank_booleanText (b : Bool) : ∀ c ∈ booleanText b, Text.isBlank c = false := by
  have hall : (booleanText b).all (fun c => !Text.isBlank c) = true := by
    revert b
    decide
  intro c hc
  simpa only [Bool.not_eq_true'] using List.all_eq_true.1 hall c hc

/-- Neither word stands within the other. -/
theorem booleanText_infix_iff {b b' : Bool} : booleanText b <:+: booleanText b' ↔ b = b' := by
  revert b b'
  decide

/-- A text that holds one of the words is no longer spelling of either. -/
theorem lowerCase_eq_booleanText_iff {text : Text} {b b' : Bool} (h : booleanText b <:+: text) :
    Text.lowerCase text = booleanText b' ↔ text = booleanText b' := by
  constructor
  · intro hlower
    have hword : booleanText b <:+: booleanText b' := by
      have hinfix := Text.lowerCase_infix h
      rwa [lowerCase_booleanText, hlower] at hinfix
    obtain rfl : b = b' := booleanText_infix_iff.1 hword
    -- the text is at least as long as the word in it, and lower-casing does not shorten it
    have hlength := Text.length_le_length_lowerCase text
    rw [hlower] at hlength
    exact (h.eq_of_length (Nat.le_antisymm h.length_le hlength)).symm
  · rintro rfl
    exact lowerCase_booleanText b'

end Literal

namespace Value

/-- A digit of some script stands in the text. -/
def HasDigit (text : Text) : Prop := ∃ c ∈ text, Text.isDigit c = true

/-- A word for a truth value stands in the text. -/
def HasTruthWord (text : Text) : Prop := ∃ b, Literal.booleanText b <:+: text

theorem looksNumeric_unanchored_iff {text : Text} :
    looksNumeric .unanchored text = true ↔ HasDigit text :=
  List.any_eq_true

theorem looksTrue_unanchored_iff {text : Text} :
    looksTrue .unanchored text = true ↔ HasTruthWord text := by
  rw [looksTrue, Bool.or_eq_true, Text.occursIn_iff, Text.occursIn_iff, HasTruthWord,
    Bool.exists_bool, or_comm]
  rfl

/-! ### What converts -/

variable {field : Option Text} {text : Text}

/-- The conversion of a truth value compares the trimmed text in lower case with the words. -/
theorem toBoolean_eq_ok_iff_lowerCase {b : Bool} :
    toBoolean field text = .ok b ↔
      Text.lowerCase (Text.trim text) = Literal.booleanText b := by
  constructor
  · intro h
    unfold toBoolean at h
    dsimp only at h
    split at h
    · next htrue =>
      obtain rfl : true = b := Except.ok.inj h
      exact htrue
    · split at h
      · next hfalse =>
        obtain rfl : false = b := Except.ok.inj h
        exact hfalse
      · cases h
  · intro h
    unfold toBoolean
    dsimp only
    rw [h]
    cases b with
    | false => rfl
    | true => rfl

/-- A text that holds a word for a truth value converts if it is a word with white space around. -/
theorem toBoolean_eq_ok_iff {b : Bool} (h : HasTruthWord text) :
    toBoolean field text = .ok b ↔ Text.trim text = Literal.booleanText b := by
  obtain ⟨word, hword⟩ := h
  have htrim := Text.infix_trim (Literal.not_isBlank_booleanText word) hword
  rw [toBoolean_eq_ok_iff_lowerCase, Literal.lowerCase_eq_booleanText_iff htrim]

/-! ### The three kinds of texts -/

theorem ofRaw_of_hasDigit (field : Option Text) (h : HasDigit text) :
    ofRaw .unanchored field text = .number <$> toNumber field text :=
  if_pos (looksNumeric_unanchored_iff.2 h)

theorem ofRaw_of_hasTruthWord (field : Option Text) (hdigit : ¬ HasDigit text)
    (h : HasTruthWord text) :
    ofRaw .unanchored field text = .boolean <$> toBoolean field text := by
  rw [ofRaw, if_neg (mt looksNumeric_unanchored_iff.1 hdigit),
    if_pos (looksTrue_unanchored_iff.2 h)]

theorem ofRaw_of_not_hasTruthWord (field : Option Text) (hdigit : ¬ HasDigit text)
    (h : ¬ HasTruthWord text) :
    ofRaw .unanchored field text = .ok (.string (trimQuotes text)) := by
  rw [ofRaw, if_neg (mt looksNumeric_unanchored_iff.1 hdigit),
    if_neg (mt looksTrue_unanchored_iff.1 h)]

/-- A text with a digit is a number if it is a number text with a finite value. -/
theorem ofRaw_eq_ok_iff_of_hasDigit (h : HasDigit text) {value : Value} :
    ofRaw .unanchored field text = .ok value ↔
      ∃ decimal, IsNumberText isTrimmed text decimal ∧
        (Binary64.ofDecimal decimal).isFinite = true ∧
        value = .number (Binary64.ofDecimal decimal) := by
  rw [ofRaw_of_hasDigit field h, map_eq_ok_iff]
  constructor
  · rintro ⟨x, hx, rfl⟩
    obtain ⟨decimal, hnumber, hfinite, rfl⟩ := toNumber_eq_ok_iff.1 hx
    exact ⟨decimal, hnumber, hfinite, rfl⟩
  · rintro ⟨decimal, hnumber, hfinite, rfl⟩
    exact ⟨_, toNumber_eq_ok_iff.2 ⟨decimal, hnumber, hfinite, rfl⟩, rfl⟩

/-- A text with a digit that is no number is refused as one, whether it is unreadable or not. -/
theorem failure_of_hasDigit (h : HasDigit text) {failure : Failure}
    (hfailure : ofRaw .unanchored field text = .error failure) :
    IsUnreadable text ∧ failure = .fault (.unreadableNumber text) ∨
      ¬ IsUnreadable text ∧
        failure = .query (.valueCoercion text "number".toList field) := by
  rw [ofRaw_of_hasDigit field h, map_eq_error_iff] at hfailure
  rcases toNumber_cases field text with ⟨hunreadable, hfault⟩ | ⟨hread, hrefused | ⟨x, -, hx⟩⟩
  · rw [hfault] at hfailure
    exact Or.inl ⟨hunreadable, (Except.error.inj hfailure).symm⟩
  · rw [hrefused] at hfailure
    exact Or.inr ⟨hread, (Except.error.inj hfailure).symm⟩
  · rw [hx] at hfailure
    cases hfailure

/-- A text without a digit, but with a word for a truth value in it, is a truth value if the word is
all there is between its white space. -/
theorem ofRaw_eq_ok_iff_of_hasTruthWord (hdigit : ¬ HasDigit text) (h : HasTruthWord text)
    {value : Value} :
    ofRaw .unanchored field text = .ok value ↔
      ∃ b, Text.trim text = Literal.booleanText b ∧ value = .boolean b := by
  rw [ofRaw_of_hasTruthWord field hdigit h, map_eq_ok_iff]
  constructor
  · rintro ⟨b, hb, rfl⟩
    exact ⟨b, (toBoolean_eq_ok_iff h).1 hb, rfl⟩
  · rintro ⟨b, hb, rfl⟩
    exact ⟨b, (toBoolean_eq_ok_iff h).2 hb, rfl⟩

theorem ofRaw_eq_error_of_hasTruthWord (hdigit : ¬ HasDigit text) (h : HasTruthWord text)
    (hword : ∀ b, Text.trim text ≠ Literal.booleanText b) :
    ofRaw .unanchored field text =
      .error (.query (.valueCoercion text "boolean".toList field)) := by
  rw [ofRaw_of_hasTruthWord field hdigit h, map_eq_error_iff]
  rcases toBoolean_cases field text with hrefused | ⟨b, hb⟩
  · exact hrefused
  · exact absurd ((toBoolean_eq_ok_iff h).1 hb) (hword b)

/-- The text alone decides what the unanchored coercion comes to. A text with a digit is the number
that it writes, if it writes a finite one with nothing around it but trimmed white space, and is
refused otherwise. A text without a digit, but with a word for a truth value, is that truth value if
nothing but white space stands around the word, and is refused otherwise. All other texts, and no
others, are strings. -/
theorem ofRaw_unanchored (field : Option Text) (text : Text) :
    (HasDigit text →
      (∀ value, ofRaw .unanchored field text = .ok value ↔
        ∃ decimal, IsNumberText isTrimmed text decimal ∧
          (Binary64.ofDecimal decimal).isFinite = true ∧
          value = .number (Binary64.ofDecimal decimal)) ∧
      ∀ failure, ofRaw .unanchored field text = .error failure →
        IsUnreadable text ∧ failure = .fault (.unreadableNumber text) ∨
          ¬ IsUnreadable text ∧
            failure = .query (.valueCoercion text "number".toList field)) ∧
    (¬ HasDigit text → HasTruthWord text →
      (∀ value, ofRaw .unanchored field text = .ok value ↔
        ∃ b, Text.trim text = Literal.booleanText b ∧ value = .boolean b) ∧
      ((∀ b, Text.trim text ≠ Literal.booleanText b) →
        ofRaw .unanchored field text =
          .error (.query (.valueCoercion text "boolean".toList field)))) ∧
    (¬ HasDigit text → ¬ HasTruthWord text →
      ofRaw .unanchored field text = .ok (.string (trimQuotes text))) ∧
    ∀ string, ofRaw .unanchored field text = .ok (.string string) →
      ¬ HasDigit text ∧ ¬ HasTruthWord text := by
  refine ⟨fun hdigit => ⟨fun _ => ofRaw_eq_ok_iff_of_hasDigit hdigit, fun _ h => ?_⟩,
    fun hdigit hword => ⟨fun _ => ofRaw_eq_ok_iff_of_hasTruthWord hdigit hword, fun h => ?_⟩,
    fun hdigit hword => ofRaw_of_not_hasTruthWord field hdigit hword, fun string h => ?_⟩
  · exact failure_of_hasDigit hdigit h
  · exact ofRaw_eq_error_of_hasTruthWord hdigit hword h
  · -- a string is neither of the values that the first two kinds of texts can be
    have hdigit : ¬ HasDigit text := by
      intro hdigit
      obtain ⟨_, -, -, hvalue⟩ := (ofRaw_eq_ok_iff_of_hasDigit hdigit).1 h
      cases hvalue
    refine ⟨hdigit, fun hword => ?_⟩
    obtain ⟨_, -, hvalue⟩ := (ofRaw_eq_ok_iff_of_hasTruthWord hdigit hword).1 h
    cases hvalue

/-- A word in other letters is no word for a truth value. -/
example : ofRaw .unanchored none " True ".toList = .ok (.string " True ".toList) := by
  decide

end Value

end SearchFilter
