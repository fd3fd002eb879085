import SearchFilter.Proofs.Binary64.Rounding
import SearchFilter.Proofs.Json.Number

/-!
# The written form read back

The digits of a binary number were sought with a test for just that, so what is left is the layout:
it moves the point and writes zeros, and neither changes what the digits are worth.

* `ofDecimal_shortest`: the digits read back as the number.
* `exists_isMagnitude`: so does the text, which is a number in JSON.
-/

namespace SearchFilter

namespace Binary64

/-! ### The fewest digits -/

theorem fives_eq {places : Nat} (h : places = 1074) : fives = 5 ^ places := by
  unfold fives
  rw [← h, Nat.pow_eq]

theorem fives_pos : 0 < fives := by
  obtain ⟨places, hplaces⟩ : ∃ places, places = 1074 := ⟨_, rfl⟩
  rw [fives_eq hplaces]
  exact Nat.pow_pos (by decide)

/-- The finest decimal grid has a place for every unit. -/
theorem exists_ten_pow_eq : ∃ places, places = 1074 ∧ 10 ^ places = fives * unitsPerOne := by
  obtain ⟨bits, hbits, hone⟩ := exists_unitsPerOne_eq
  refine ⟨bits, hbits, ?_⟩
  rw [hone, fives_eq hbits, ← Nat.mul_pow]

theorem nearestCode_shortest (code : Nat) :
    nearestCode ((shortest code).1 * 10 ^ (shortest code).2) fives = code := by
  have hfinest : isReadBack code (units code * fives) 0 = true := by
    have hunits := nearestCode_units code fives_pos
    rw [isReadBack, beq_iff_eq]
    show nearestCode (units code * fives * 1) fives = code
    rw [Nat.mul_one, hunits]
  have hhit := hit_coarsestFrom hfinest ((units code).log2 * 30103 / 100000 + 752)
  exact eq_of_beq hhit

/-- The fewest digits of a number read back as that number. -/
theorem ofDecimal_shortest (negative : Bool) (code : Fin codeLimit) :
    ofDecimal ⟨negative, (shortest code).1, (shortest code).2 - 1074⟩ = finite negative code := by
  obtain ⟨places, hplaces, hten⟩ := exists_ten_pow_eq
  have hexponent :
      ((shortest code).2 : Int) - 1074 = ((shortest code).2 : Int) - (places : Nat) := by
    omega
  rw [hexponent, ofDecimal_eq_ofUnits, hten, ofUnits_mul_mul_right negative unitsPerOne_pos]
  simp only [ofUnits, nearestCode_shortest]
  exact dif_pos code.isLt

theorem shortest_ne_zero (h : code ≠ 0) : (shortest code).1 ≠ 0 := by
  intro hzero
  have hcode := nearestCode_shortest code
  rw [hzero, Nat.zero_mul, nearestCode_of_two_mul_lt fives_pos] at hcode
  exact h hcode.symm

/-! ### Numerals -/

theorem isDigits_numeral (n : Nat) : Json.IsDigits (numeral n) where
  ne_nil := Nat.toDigits_ne_nil
  isDigit := fun _ hc => Nat.isDigit_of_mem_toDigits (by decide) (by decide) hc

theorem ofDigitChars_numeral (n : Nat) : Nat.ofDigitChars 10 (numeral n) 0 = n :=
  Nat.ofDigitChars_toDigits (by decide) (by decide)

/-- The numeral of a number that is not zero does not start with a zero. -/
theorem head?_numeral {n : Nat} (h : n ≠ 0) : (numeral n).head? ≠ some '0' := by
  induction n using Nat.strong_induction_on with
  | h n ih =>
    by_cases hlt : n < 10
    · have hdigit : ∀ d < 10, d ≠ 0 → Nat.digitChar d ≠ '0' := by decide
      rw [numeral, Nat.toDigits_of_lt_base hlt]
      intro hhead
      exact hdigit n hlt h (Option.some.inj hhead)
    · -- the last digit is not the first one
      have hfirst := ih (n / 10) (by omega) (by omega)
      have hsplit : numeral n = numeral (n / 10) ++ [Nat.digitChar (n % 10)] :=
        Nat.toDigits_of_base_le (by decide) (by omega)
      rwa [hsplit, List.head?_append_of_ne_nil _ (isDigits_numeral (n / 10)).ne_nil]

/-- A natural number as the whole part of a number in JSON. -/
theorem isWhole_numeral (n : Nat) : Json.IsWhole (numeral n) := by
  refine ⟨isDigits_numeral n, fun hhead => ?_⟩
  by_cases h : n = 0
  · rw [h]
    rfl
  · exact absurd hhead (head?_numeral h)

/-! ### Layouts -/

variable {digits : Text}

theorem isDigits_append {front back : Text} (hfront : ∀ c ∈ front, c.isDigit = true)
    (hback : Json.IsDigits back) : Json.IsDigits (front ++ back) where
  ne_nil := List.append_ne_nil_of_right_ne_nil front hback.ne_nil
  isDigit := List.forall_mem_append.2 ⟨hfront, hback.isDigit⟩

theorem isDigit_of_mem_zeros {n : Nat} : ∀ c ∈ List.replicate n '0', c.isDigit = true := by
  intro c hc
  rw [List.eq_of_mem_replicate hc]
  decide

/-- Zeros in front of digits are worth nothing. -/
theorem ofDigitChars_zeros_append (n : Nat) (digits : Text) :
    Nat.ofDigitChars 10 (List.replicate n '0' ++ digits) 0 = Nat.ofDigitChars 10 digits 0 := by
  rw [Nat.ofDigitChars_append, Nat.ofDigitChars_replicate_zero, Nat.mul_zero]

/-- Zeros behind digits are powers of ten. -/
theorem ofDigitChars_append_zeros (digits : Text) (n : Nat) :
    Nat.ofDigitChars 10 (digits ++ List.replicate n '0') 0 =
      Nat.ofDigitChars 10 digits 0 * 10 ^ n := by
  rw [Nat.ofDigitChars_append, Nat.ofDigitChars_replicate_zero, Nat.mul_comm]

/-- The digits in front of a point that is moved into them. -/
theorem isWhole_take (h : Json.IsDigits digits) (hhead : digits.head? ≠ some '0') {place : Nat}
    (hplace : place ≠ 0) : Json.IsWhole (digits.take place) := by
  obtain ⟨c, rest, rfl⟩ := List.exists_cons_of_ne_nil h.ne_nil
  obtain ⟨before, rfl⟩ := Nat.exists_eq_succ_of_ne_zero hplace
  refine ⟨⟨List.cons_ne_nil _ _, fun d hd => h.isDigit d (List.mem_of_mem_take hd)⟩, ?_⟩
  exact fun hzero => absurd hzero hhead

theorem isDigits_drop (h : Json.IsDigits digits) {place : Nat} (hplace : place < digits.length) :
    Json.IsDigits (digits.drop place) where
  ne_nil := fun hnil => by
    rw [List.drop_eq_nil_iff] at hnil
    omega
  isDigit := fun c hc => h.isDigit c (List.mem_of_mem_drop hc)

/-- A layout is a number in JSON that is worth what its digits are worth: some zeros may have
become digits. -/
def IsLaidOut (digits : Text) (point : Int) (text : Text) : Prop :=
  ∃ zeros : Nat, Json.IsMagnitude text (Nat.ofDigitChars 10 digits 0 * 10 ^ zeros)
    (point - digits.length - zeros) false

theorem isLaidOut_of_isMagnitude {text : Text} {coefficient : Nat} {point exponent : Int}
    (h : Json.IsMagnitude text coefficient exponent false) (zeros : Nat)
    (hcoefficient : coefficient = Nat.ofDigitChars 10 digits 0 * 10 ^ zeros)
    (hexponent : exponent = point - digits.length - zeros) : IsLaidOut digits point text := by
  rw [hcoefficient, hexponent] at h
  exact ⟨zeros, h⟩

/-- In front of all digits there is a zero, the point and more zeros. -/
theorem isLaidOut_leading (h : Json.IsDigits digits) (gap : Nat) :
    IsLaidOut digits (-gap) (['0', '.'] ++ List.replicate gap '0' ++ digits) := by
  have hpart : Json.IsDigits (List.replicate gap '0' ++ digits) :=
    isDigits_append isDigit_of_mem_zeros h
  have hmagnitude := Json.IsMagnitude.mk (isWhole_numeral 0) (.written hpart) .absent
  have hcoefficient : Nat.ofDigitChars 10 (numeral 0 ++ (List.replicate gap '0' ++ digits)) 0 =
      Nat.ofDigitChars 10 digits 0 * 10 ^ 0 := by
    rw [Nat.ofDigitChars_append, ofDigitChars_numeral, ofDigitChars_zeros_append, Nat.pow_zero,
      Nat.mul_one]
  rw [List.append_nil] at hmagnitude
  refine isLaidOut_of_isMagnitude hmagnitude 0 hcoefficient ?_
  rw [List.length_append, List.length_replicate]
  omega

/-- The point stands between two digits. -/
theorem isLaidOut_within (h : Json.IsDigits digits) (hhead : digits.head? ≠ some '0')
    {place : Nat} (hplace : place ≠ 0) (hlt : place < digits.length) :
    IsLaidOut digits place (digits.take place ++ '.' :: digits.drop place) := by
  have hmagnitude := Json.IsMagnitude.mk (isWhole_take h hhead hplace)
    (.written (isDigits_drop h hlt)) .absent
  rw [List.append_nil, List.take_append_drop] at hmagnitude
  refine isLaidOut_of_isMagnitude hmagnitude 0 (by rw [Nat.pow_zero, Nat.mul_one]) ?_
  rw [List.length_drop]
  omega

/-- The digits, with zeros behind them, in front of a point. -/
theorem isWhole_append_zeros (h : Json.IsDigits digits) (hhead : digits.head? ≠ some '0')
    (n : Nat) : Json.IsWhole (digits ++ List.replicate n '0') where
  ne_nil := List.append_ne_nil_of_left_ne_nil h.ne_nil _
  isDigit := List.forall_mem_append.2 ⟨h.isDigit, isDigit_of_mem_zeros⟩
  head := by
    rw [List.head?_append_of_ne_nil _ h.ne_nil]
    exact fun hzero => absurd hzero hhead

/-- Behind all digits there are zeros, and one more behind the point. -/
theorem isLaidOut_trailing (h : Json.IsDigits digits) (hhead : digits.head? ≠ some '0')
    {place : Nat} (hle : digits.length ≤ place) :
    IsLaidOut digits place
      (digits ++ List.replicate (place - digits.length) '0' ++ ['.', '0']) := by
  have hmagnitude := Json.IsMagnitude.mk
    (isWhole_append_zeros h hhead (place - digits.length)) (.written (isDigits_numeral 0)) .absent
  have hcoefficient : Nat.ofDigitChars 10
      (digits ++ List.replicate (place - digits.length) '0' ++ numeral 0) 0 =
        Nat.ofDigitChars 10 digits 0 * 10 ^ (place - digits.length + 1) := by
    have hzeros : List.replicate (place - digits.length) '0' ++ numeral 0 =
        List.replicate (place - digits.length + 1) '0' := List.replicate_succ'.symm
    rw [List.append_assoc, hzeros, ofDigitChars_append_zeros]
  rw [List.append_nil] at hmagnitude
  refine isLaidOut_of_isMagnitude hmagnitude _ hcoefficient ?_
  have hlength : (numeral 0).length = 1 := rfl
  rw [hlength]
  omega

theorem isLaidOut_positional (h : Json.IsDigits digits) (hhead : digits.head? ≠ some '0')
    (point : Int) : IsLaidOut digits point (positional digits point) := by
  unfold positional
  split
  · next gap => exact isLaidOut_leading h (gap + 1)
  · exact isLaidOut_leading h 0
  · next place hplace =>
    have hne : place ≠ 0 := fun hzero => hplace (by rw [hzero])
    split
    · next hlt => exact isLaidOut_within h hhead hne hlt
    · next hlt => exact isLaidOut_trailing h hhead (Nat.not_lt.1 hlt)

/-- A number in two digits or more. -/
theorem isDigits_twoDigits (n : Nat) : Json.IsDigits (twoDigits n) := by
  unfold twoDigits
  split
  · have hzero : ∀ c ∈ ['0'], c.isDigit = true := List.forall_mem_singleton.2 (by decide)
    exact isDigits_append hzero (isDigits_numeral n)
  · exact isDigits_numeral n

theorem ofDigitChars_twoDigits (n : Nat) : Nat.ofDigitChars 10 (twoDigits n) 0 = n := by
  unfold twoDigits
  split
  · exact (ofDigitChars_zeros_append 1 (numeral n)).trans (ofDigitChars_numeral n)
  · exact ofDigitChars_numeral n

/-- The exponent of a layout, with its sign. -/
theorem isPower_exponent (exponent : Int) :
    Json.IsPower ('e' :: (if exponent < 0 then '-' else '+') :: twoDigits exponent.natAbs)
      exponent := by
  have hvalue := ofDigitChars_twoDigits exponent.natAbs
  split
  · next hneg =>
    have hpower := Json.IsPower.written (Or.inl (Eq.refl 'e')) .minus
      (isDigits_twoDigits exponent.natAbs)
    have hexponent : -((exponent.natAbs : Nat) : Int) = exponent := by omega
    rw [hvalue, if_pos rfl, hexponent] at hpower
    exact hpower
  · next hneg =>
    have hpower := Json.IsPower.written (Or.inl (Eq.refl 'e')) .plus
      (isDigits_twoDigits exponent.natAbs)
    have hexponent : ((exponent.natAbs : Nat) : Int) = exponent := by omega
    rw [hvalue, if_neg Bool.false_ne_true, hexponent] at hpower
    exact hpower

theorem isLaidOut_scientific (h : Json.IsDigits digits) (hhead : digits.head? ≠ some '0')
    (point : Int) : IsLaidOut digits point (scientific digits (point - 1)) := by
  have hpower := isPower_exponent (point - 1)
  have hpos : 0 < digits.length := List.length_pos_of_ne_nil h.ne_nil
  unfold scientific
  dsimp only
  split
  · -- a single digit has no point behind it
    next hle =>
    have hwhole := isWhole_append_zeros h hhead 0
    have hmagnitude := Json.IsMagnitude.mk hwhole .absent hpower
    rw [List.replicate_zero, List.append_nil, List.append_nil] at hmagnitude
    refine isLaidOut_of_isMagnitude hmagnitude 0 (by rw [Nat.pow_zero, Nat.mul_one]) ?_
    rw [List.length_nil]
    omega
  · next hlt =>
    have hmagnitude := Json.IsMagnitude.mk (isWhole_take h hhead Nat.one_ne_zero)
      (.written (isDigits_drop h (Nat.not_le.1 hlt))) hpower
    rw [List.take_append_drop] at hmagnitude
    refine isLaidOut_of_isMagnitude hmagnitude 0 (by rw [Nat.pow_zero, Nat.mul_one]) ?_
    rw [List.length_drop]
    omega

theorem isLaidOut_layOut (h : Json.IsDigits digits) (hhead : digits.head? ≠ some '0')
    (point : Int) : IsLaidOut digits point (layOut digits point) := by
  unfold layOut
  split
  · exact isLaidOut_positional h hhead point
  · exact isLaidOut_scientific h hhead point

/-! ### Reading back -/

theorem magnitudeText_zero : magnitudeText 0 = ['0', '.', '0'] := by
  have hlayOut : layOut ['0'] 1 = ['0', '.', '0'] := by decide
  rw [magnitudeText, if_pos rfl, hlayOut]

/-- The search stands for its result here, so that nothing begins to compute it. -/
theorem magnitudeText_of_ne_zero (h : code ≠ 0) {m j : Nat} (hshortest : shortest code = (m, j)) :
    magnitudeText code = layOut (numeral m) ((numeral m).length + j - 1074) := by
  rw [magnitudeText, if_neg h, hshortest]

/-- The text of a magnitude is a number in JSON, with a point or an exponent, and with either sign
it reads back as the number that was written. -/
theorem exists_isMagnitude (negative : Bool) (code : Fin codeLimit) :
    ∃ coefficient exponent,
      Json.IsMagnitude (magnitudeText code) coefficient exponent false ∧
        ofDecimal ⟨negative, coefficient, exponent⟩ = finite negative code := by
  by_cases hzero : code.val = 0
  · have hmagnitude : Json.IsMagnitude ['0', '.', '0'] 0 (-1) false :=
      Json.IsMagnitude.mk (isWhole_numeral 0) (.written (isDigits_numeral 0)) .absent
    have hcode : code = ⟨0, by decide⟩ := Fin.ext hzero
    rw [hcode]
    refine ⟨0, -1, ?_, rfl⟩
    rw [magnitudeText_zero]
    exact hmagnitude
  · cases hshortest : shortest code with
    | mk m j =>
      have hne : m ≠ 0 := by
        have hfirst := shortest_ne_zero hzero
        rwa [hshortest] at hfirst
      have hvalue := ofDecimal_shortest negative code
      rw [hshortest] at hvalue
      -- the layout may put zeros behind the digits, which the exponent makes up for
      obtain ⟨zeros, hmagnitude⟩ := isLaidOut_layOut (isDigits_numeral m) (head?_numeral hne)
        ((numeral m).length + j - 1074)
      have hexponent : ((numeral m).length + j - 1074 : Int) - (numeral m).length - zeros + zeros =
          j - 1074 := by omega
      rw [ofDigitChars_numeral, ← magnitudeText_of_ne_zero hzero hshortest] at hmagnitude
      rw [← hexponent, ← ofDecimal_mul_ten_pow] at hvalue
      exact ⟨_, _, hmagnitude, hvalue⟩

end Binary64

end SearchFilter
