import SearchFilter.Json.Text
import SearchFilter.Proofs.Json.Reader

/-!
# Strings and numbers of JSON text read back

Each reader of the front of a text undoes the writer of its part and leaves what is written behind
it, whatever that is; only a number must not be followed by a character that would continue it.

* `takeChar?_stringChar`: whatever escape a character takes, it comes back.
* `takeString?_flatMap`: so does a string.
* `takeNumber?_signed`: a number is read to its end.
-/

namespace SearchFilter

/-! ### Runs of characters -/

namespace Text

variable {p : Char → Bool} {front rest : Text}

/-- A run of characters ends where the rest does not go on with it. -/
theorem takeWhile_append_of_head (hfront : ∀ c ∈ front, p c = true)
    (hrest : ∀ c ∈ rest.head?, p c = false) : (front ++ rest).takeWhile p = front := by
  rw [List.takeWhile_append_of_pos hfront]
  cases rest with
  | nil => exact List.append_nil front
  | cons c rest =>
    rw [List.takeWhile_cons_of_neg (by simp [hrest c rfl])]
    exact List.append_nil front

theorem dropWhile_append_of_head (hfront : ∀ c ∈ front, p c = true)
    (hrest : ∀ c ∈ rest.head?, p c = false) : (front ++ rest).dropWhile p = rest := by
  rw [List.dropWhile_append_of_pos hfront]
  cases rest with
  | nil => rfl
  | cons c rest => exact List.dropWhile_cons_of_neg (by simp [hrest c rfl])

end Text

namespace Json

/-! ### Characters -/

theorem hexValue?_hexDigit : ∀ n < 16, hexValue? (Text.hexDigit n) = some n := by
  decide

theorem takeUnit?_hexCode {n : Nat} (h : n < 0x10000) (rest : Text) :
    takeUnit? (Text.hexCode 4 n ++ rest) = some (n, rest) := by
  have hdigit : ∀ m, hexValue? (Text.hexDigit (m % 16)) = some (m % 16) :=
    fun m => hexValue?_hexDigit _ (Nat.mod_lt m (by decide))
  have hvalue : ((n / 16 / 16 / 16 % 16 * 16 + n / 16 / 16 % 16) * 16 + n / 16 % 16) * 16 + n % 16 =
      n := by omega
  show takeUnit? (Text.hexDigit (n / 16 / 16 / 16 % 16) :: Text.hexDigit (n / 16 / 16 % 16) ::
    Text.hexDigit (n / 16 % 16) :: Text.hexDigit (n % 16) :: rest) = some (n, rest)
  simp only [takeUnit?, hdigit, Option.bind_eq_bind, Option.bind_some, Option.pure_def, hvalue]

/-- What is a character is no surrogate. -/
theorem toNat_bounds (c : Char) :
    (c.toNat < 0xD800 ∨ 0xDFFF < c.toNat) ∧ c.toNat < 0x110000 := by
  rcases c.valid with h | ⟨hlow, hhigh⟩
  · exact ⟨Or.inl h, Nat.lt_trans h (by decide)⟩
  · exact ⟨Or.inr hlow, hhigh⟩

theorem takeChar?_unitEscape (unit : Nat) (rest : Text) :
    takeChar? (unitEscape unit ++ rest) = takeCode? (Text.hexCode 4 unit ++ rest) := rfl

theorem takeLowHalf?_unitEscape {unit : Nat} (hlow : 0xDC00 ≤ unit) (hhigh : unit < 0xE000)
    (rest : Text) : takeLowHalf? (unitEscape unit ++ rest) = some (unit - 0xDC00, rest) := by
  have htext : unitEscape unit ++ rest = '\\' :: 'u' :: (Text.hexCode 4 unit ++ rest) := rfl
  have hunit := takeUnit?_hexCode (Nat.lt_trans hhigh (by decide)) rest
  have hrange : (decide (0xDC00 ≤ unit) && decide (unit < 0xE000)) = true := by
    rw [Bool.and_eq_true, decide_eq_true_eq, decide_eq_true_eq]
    exact ⟨hlow, hhigh⟩
  rw [htext, takeLowHalf?, hunit, Option.bind_eq_bind, Option.bind_some]
  exact if_pos hrange

theorem takeCode?_hexCode {unit : Nat} (hlimit : unit < 0x10000)
    (h : unit < 0xD800 ∨ 0xDFFF < unit) (rest : Text) :
    takeCode? (Text.hexCode 4 unit ++ rest) = some (Char.ofNat unit, rest) := by
  have hunit : (decide (unit < 0xD800) || decide (0xDFFF < unit)) = true := by
    rwa [Bool.or_eq_true, decide_eq_true_eq, decide_eq_true_eq]
  rw [takeCode?, takeUnit?_hexCode hlimit, Option.bind_eq_bind, Option.bind_some]
  exact if_pos hunit

theorem takeCode?_pair {high low : Nat} (hhigh : 0xD800 ≤ high ∧ high < 0xDC00)
    (hlow : 0xDC00 ≤ low ∧ low < 0xE000) (rest : Text) :
    takeCode? (Text.hexCode 4 high ++ (unitEscape low ++ rest)) =
      some (Char.ofNat (0x10000 + (high - 0xD800) * 0x400 + (low - 0xDC00)), rest) := by
  have hlimit : high < 0x10000 := by omega
  have hunit : ¬ (decide (high < 0xD800) || decide (0xDFFF < high)) = true := by
    rw [Bool.or_eq_true, decide_eq_true_eq, decide_eq_true_eq]
    omega
  rw [takeCode?, takeUnit?_hexCode hlimit, Option.bind_eq_bind, Option.bind_some]
  dsimp only
  rw [if_neg hunit, if_pos hhigh.2, takeLowHalf?_unitEscape hlow.1 hlow.2]
  rfl

/-- The escape of a character is read as the character. -/
theorem takeChar?_codeEscape (c : Char) (rest : Text) :
    takeChar? (codeEscape c ++ rest) = some (c, rest) := by
  obtain ⟨hsurrogate, hlimit⟩ := toNat_bounds c
  unfold codeEscape
  split
  · next hunit =>
    rw [takeChar?_unitEscape, takeCode?_hexCode hunit hsurrogate, Char.ofNat_toNat]
  · next hunit =>
    -- each half carries ten bits of what is above the units
    generalize hfirst : 0xD800 + (c.toNat - 0x10000) / 0x400 = high
    generalize hsecond : 0xDC00 + (c.toNat - 0x10000) % 0x400 = low
    have hcode : 0x10000 + (high - 0xD800) * 0x400 + (low - 0xDC00) = c.toNat := by omega
    rw [List.append_assoc, takeChar?_unitEscape, takeCode?_pair (by omega) (by omega), hcode,
      Char.ofNat_toNat]

theorem takeChar?_of_plain {c : Char} (hquote : ¬ (c = '"' ∨ c = '\\')) (hspace : 0x20 ≤ c.toNat)
    (rest : Text) : takeChar? (c :: rest) = some (c, rest) := by
  rw [not_or] at hquote
  unfold takeChar?
  split
  · next heq => exact absurd (List.cons.inj heq).1 hquote.2
  · next heq => exact absurd (List.cons.inj heq).1 hquote.2
  · next heq =>
    obtain ⟨rfl, rfl⟩ := List.cons.inj heq
    refine if_neg ?_
    simp only [Bool.or_eq_true, decide_eq_true_eq, not_or]
    exact ⟨⟨Nat.not_lt.2 hspace, hquote.1⟩, hquote.2⟩
  · next heq => exact absurd heq (List.cons_ne_nil _ _)

/-- What a character of a string is written as is read as that character. -/
theorem takeChar?_stringChar (asciiOnly : Bool) (c : Char) (rest : Text) :
    takeChar? (stringChar asciiOnly c ++ rest) = some (c, rest) := by
  unfold stringChar
  split
  · next hquote =>
    simp only [Bool.or_eq_true, decide_eq_true_eq] at hquote
    rcases hquote with rfl | rfl
    · rfl
    · rfl
  · next hquote =>
    simp only [Bool.or_eq_true, decide_eq_true_eq] at hquote
    -- five characters have a letter for their escape
    split
    · next hc =>
      rw [hc]
      rfl
    split
    · next hc =>
      rw [hc]
      rfl
    split
    · next hc =>
      rw [hc]
      rfl
    split
    · next hc =>
      rw [hc]
      rfl
    split
    · next hc =>
      rw [hc]
      rfl
    split
    · exact takeChar?_codeEscape c rest
    · next hplain =>
      simp only [Bool.or_eq_true, decide_eq_true_eq, not_or] at hplain
      exact takeChar?_of_plain hquote (Nat.not_lt.1 hplain.1) rest

/-! ### Strings -/

theorem takeString?_of_takeChar? {text rest : Text} {c : Char}
    (h : takeChar? text = some (c, rest)) (hlt : rest.length < text.length) :
    takeString? text = (takeString? rest).map fun (value, rest) => (c :: value, rest) := by
  rw [takeString?]
  · rw [h]
    exact if_pos hlt
  · rintro _ rfl
    cases h

theorem stringChar_ne_nil (asciiOnly : Bool) (c : Char) : stringChar asciiOnly c ≠ [] := by
  intro hnil
  have htake := takeChar?_stringChar asciiOnly c []
  rw [hnil] at htake
  cases htake

/-- A string is read up to its closing quote, and is what was written. -/
theorem takeString?_flatMap (asciiOnly : Bool) (value rest : Text) :
    takeString? (value.flatMap (stringChar asciiOnly) ++ '"' :: rest) = some (value, rest) := by
  induction value with
  | nil => rw [List.flatMap_nil, List.nil_append, takeString?]
  | cons c value ih =>
    have hpos := List.length_pos_of_ne_nil (stringChar_ne_nil asciiOnly c)
    rw [List.flatMap_cons, List.append_assoc,
      takeString?_of_takeChar? (takeChar?_stringChar asciiOnly c _), ih]
    · rfl
    · simp only [List.length_append]
      omega

theorem takeScalar?_stringText (asciiOnly : Bool) (value rest : Text) :
    takeScalar? (stringText asciiOnly value ++ rest) = some (string value, rest) := by
  have hstring := takeString?_flatMap asciiOnly value rest
  rw [stringText, List.append_assoc]
  show (takeString? (value.flatMap (stringChar asciiOnly) ++ '"' :: rest)).map _ = _
  rw [hstring]
  rfl

/-! ### Numbers -/

theorem IsDigits.isDigitRun_eq_true {text : Text} (h : IsDigits text) : isDigitRun text = true := by
  rw [isDigitRun, Bool.and_eq_true, Bool.not_eq_true', List.isEmpty_eq_false_iff,
    List.all_eq_true]
  exact ⟨h.ne_nil, h.isDigit⟩

theorem IsPower.isPower_eq_true {power : Text} {exponent : Int} (h : IsPower power exponent) :
    isPower power = true := by
  cases h with
  | absent => rfl
  | @written mark sign digits negative hmark hs hd =>
    have hhead : ∀ c ∈ (digits ++ []).head?, c ≠ '-' ∧ c ≠ '+' :=
      hd.isDigits.head_ne_sign hd.digitValues_ne_nil
    rw [List.append_nil] at hhead
    have hsign : Decimal.takeSign (sign ++ digits) = (negative, digits) := hs.takeSign_append hhead
    show ((mark = 'e' || mark = 'E') && isDigitRun (Decimal.takeSign (sign ++ digits)).2) = true
    rw [hsign, IsDigits.isDigitRun_eq_true hd, Bool.and_true]
    simpa using hmark

/-- A power of ten starts with no digit. -/
theorem IsPower.head_ne_digit {power : Text} {exponent : Int} (hp : IsPower power exponent) :
    ∀ c ∈ power.head?, c.isDigit = false ∧ c ≠ '.' := by
  cases hp with
  | absent => exact fun c hc => absurd hc (by simp)
  | @written mark sign digits negative hmark hs hd =>
    intro c hc
    obtain rfl : mark = c := Option.some.inj hc
    rcases hmark with rfl | rfl
    · decide
    · decide

theorem IsMagnitude.isMagnitude_eq_true {text : Text} {coefficient : Nat} {exponent : Int}
    {integer : Bool} (h : IsMagnitude text coefficient exponent integer) :
    isMagnitude text = true := by
  cases h with
  | @mk whole fraction part power exponent hw hf hp =>
    have hpower := IsPower.isPower_eq_true hp
    have hfirst : (isDigitRun whole && (whole.head? != some '0' || whole == ['0'])) = true := by
      rw [IsDigits.isDigitRun_eq_true hw.toIsDigits, Bool.true_and, Bool.or_eq_true, bne_iff_ne,
        beq_iff_eq, ← imp_iff_not_or]
      exact hw.head
    rw [List.append_assoc]
    have hhead : ∀ c ∈ power.head?, c.isDigit = false := fun c hc => (hp.head_ne_digit c hc).1
    -- each stretch of digits ends where the next part begins, with a point or an exponent
    cases hf with
    | absent =>
      rw [List.nil_append, isMagnitude, Text.takeWhile_append_of_head hw.isDigit hhead,
        Text.dropWhile_append_of_head hw.isDigit hhead, hfirst, Bool.true_and]
      split
      · next => exact absurd rfl (hp.head_ne_digit '.' rfl).2
      · exact hpower
    | written hpart =>
      have hpoint : ∀ c ∈ ('.' :: part ++ power).head?, c.isDigit = false := by simp
      rw [isMagnitude, Text.takeWhile_append_of_head hw.isDigit hpoint,
        Text.dropWhile_append_of_head hw.isDigit hpoint, hfirst, Bool.true_and]
      show (isDigitRun ((part ++ power).takeWhile Char.isDigit) &&
        isPower ((part ++ power).dropWhile Char.isDigit)) = true
      rw [Text.takeWhile_append_of_head hpart.isDigit hhead,
        Text.dropWhile_append_of_head hpart.isDigit hhead, IsDigits.isDigitRun_eq_true hpart,
        hpower]
      rfl

/-- A number is digits alone exactly if it has neither a point nor a power of ten. -/
theorem IsMagnitude.all_isDigit {text : Text} {coefficient : Nat} {exponent : Int}
    {integer : Bool} (h : IsMagnitude text coefficient exponent integer) :
    text.all Char.isDigit = integer := by
  cases h with
  | @mk whole fraction part power exponent hw hf hp =>
    have hwhole : whole.all Char.isDigit = true := List.all_eq_true.2 hw.isDigit
    have hfraction : fraction.all Char.isDigit = fraction.isEmpty := by
      cases hf with
      | absent => rfl
      | written _ => rfl
    have hpower : power.all Char.isDigit = power.isEmpty := by
      cases power with
      | nil => rfl
      | cons c power => rw [List.all_cons, (hp.head_ne_digit c rfl).1]; rfl
    rw [List.all_append, List.all_append, hwhole, hfraction, hpower, Bool.true_and]

/-- The text does not go on with anything that a number could take in. -/
def EndsNumber (text : Text) : Prop := ∀ c ∈ text.head?, isNumberChar c = false

section

variable {text : Text} {coefficient : Nat} {exponent : Int} {integer : Bool}

theorem numberOf?_signed (h : IsMagnitude text coefficient exponent integer) (negative : Bool) :
    numberOf? (Binary64.signed negative text) =
      some (if integer then .integer (if negative then -coefficient else coefficient)
        else .number (Binary64.ofDecimal ⟨negative, coefficient, exponent⟩)) := by
  have hmagnitude : (if (Binary64.signed negative text).head? = some '-' then
      (Binary64.signed negative text).tail else Binary64.signed negative text) = text := by
    cases negative with
    | true => rfl
    | false =>
      -- without a sign the first character is a digit, and nothing is taken off
      obtain ⟨c, rest, rfl, hc⟩ := h.exists_eq_cons
      refine if_neg fun hhead => ?_
      obtain rfl : c = '-' := Option.some.inj hhead
      exact absurd hc (by decide)
  have hdecimal := (h.isNumeral negative).ofText?_eq
  simp only [numberOf?, hmagnitude, IsMagnitude.isMagnitude_eq_true h, if_true, hdecimal,
    IsMagnitude.all_isDigit h, Option.map_some]

/-- A number with its sign is read up to its end. -/
theorem takeNumber?_signed (h : IsMagnitude text coefficient exponent integer) (negative : Bool)
    {rest : Text} (hrest : EndsNumber rest) :
    takeNumber? (Binary64.signed negative text ++ rest) =
      some (if integer then .integer (if negative then -coefficient else coefficient)
        else .number (Binary64.ofDecimal ⟨negative, coefficient, exponent⟩), rest) := by
  have hchars : ∀ c ∈ Binary64.signed negative text, isNumberChar c = true := by
    cases negative with
    | false => exact h.isNumberChar
    | true => exact List.forall_mem_cons.2 ⟨by decide, h.isNumberChar⟩
  rw [takeNumber?, Text.takeWhile_append_of_head hchars hrest,
    Text.dropWhile_append_of_head hchars hrest, numberOf?_signed h]
  rfl

/-- No other value starts as a number does. -/
theorem takeScalar?_signed (h : IsMagnitude text coefficient exponent integer) (negative : Bool)
    (rest : Text) : takeScalar? (Binary64.signed negative text ++ rest) =
      takeNumber? (Binary64.signed negative text ++ rest) := by
  obtain ⟨c, more, rfl, hc⟩ := h.exists_eq_cons
  cases negative with
  | true => rfl
  | false =>
    show takeScalar? (c :: (more ++ rest)) = takeNumber? (c :: (more ++ rest))
    unfold takeScalar?
    split
    · next heq => exact absurd hc (by rw [(List.cons.inj heq).1]; decide)
    · next heq => exact absurd hc (by rw [(List.cons.inj heq).1]; decide)
    · next heq => exact absurd hc (by rw [(List.cons.inj heq).1]; decide)
    · next heq => exact absurd hc (by rw [(List.cons.inj heq).1]; decide)
    · rfl

end

end Json

end SearchFilter
