import Mathlib.Algebra.Group.Nat.Defs
import SearchFilter.Proofs.Json.Scalar
import SearchFilter.Text.Quoted
import SearchFilter.Text.Wrap

/-!
# Quoted texts read back

The mark in front says which mark ends the text; behind a backslash stands the mark, the backslash,
a letter for a control, or a letter that says how many hexadecimal digits follow. No character is
written so that it starts with the mark, and so the reader meets the mark at the end only.

* `takeQuotedChar?_quoteChar`: each character comes back from its escape.
* `takeQuoted?_quoted`: a text comes back from its quoted form.
* `isLineBreak_of_isPrintable`: what is printable stays on its line.
-/

namespace SearchFilter

namespace Text

/-! ### Codes -/

/-- The number that hexadecimal digits stand for. -/
def hexNumber? (digits : Text) : Option Nat :=
  digits.foldlM (fun n c => (Json.hexValue? c).map (n * 16 + ·)) 0

/-- A character from the digits of its code, which are so many. -/
def takeCode? (width : Nat) (text : Text) : Option (Char × Text) :=
  if text.length < width then none
  else (hexNumber? (text.take width)).map fun code => (Char.ofNat code, text.drop width)

theorem hexNumber?_append_singleton (digits : Text) (c : Char) :
    hexNumber? (digits ++ [c]) =
      (hexNumber? digits).bind fun n => (Json.hexValue? c).map (n * 16 + ·) := by
  simp [hexNumber?, List.foldlM_append]

theorem hexNumber?_hexCode (width n : Nat) :
    hexNumber? (hexCode width n) = some (n % 16 ^ width) := by
  induction width generalizing n with
  | zero => exact congrArg some (Nat.mod_one n).symm
  | succ width ih =>
    have hlast := Json.hexValue?_hexDigit (n % 16) (Nat.mod_lt n (by decide))
    rw [hexCode, hexNumber?_append_singleton, ih, Option.bind_some, hlast, Option.map_some,
      Nat.pow_succ', Nat.mod_mul, Nat.mul_comm, Nat.add_comm]

/-- A character comes back from its code, if the digits suffice. -/
theorem takeCode?_hexCode (width : Nat) {c : Char} (h : c.toNat < 16 ^ width) (rest : Text) :
    takeCode? width (hexCode width c.toNat ++ rest) = some (c, rest) := by
  have hlength := length_hexCode width c.toNat
  rw [takeCode?, if_neg (by rw [List.length_append]; omega), List.take_left' hlength,
    List.drop_left' hlength, hexNumber?_hexCode, Nat.mod_eq_of_lt h, Option.map_some,
    Char.ofNat_toNat]

/-! ### Characters -/

/-- The letters that codes stand behind, with the number of their digits. -/
def codeWidths : List (Char × Nat) := [('x', 2), ('u', 4), ('U', 8)]

/-- What else stands behind a backslash, with what it means. -/
def quoteEscapes : List (Char × Char) :=
  [('\\', '\\'), ('\'', '\''), ('"', '"'), ('n', '\n'), ('r', '\r'), ('t', '\t')]

/-- One character of a quoted text. -/
def takeQuotedChar? : Text → Option (Char × Text)
  | '\\' :: letter :: rest =>
    match codeWidths.lookup letter with
    | some width => takeCode? width rest
    | none => (quoteEscapes.lookup letter).map fun meant => (meant, rest)
  | c :: rest => if c = '\\' then none else some (c, rest)
  | [] => none

/-- The characters up to the mark. What is left after a character is always shorter; the test tells
that to the recursion. -/
def takeQuotedUntil? (mark : Char) (text : Text) : Option (Text × Text) :=
  match text with
  | [] => none
  | c :: rest =>
    if c = mark then some ([], rest)
    else
      match takeQuotedChar? (c :: rest) with
      | some (meant, behind) =>
        if behind.length ≤ rest.length then
          (takeQuotedUntil? mark behind).map fun (text, rest) => (meant :: text, rest)
        else none
      | none => none
termination_by text.length

/-- A quoted text, and what stands behind it. -/
def takeQuoted? : Text → Option (Text × Text)
  | mark :: text => if mark = '\'' || mark = '"' then takeQuotedUntil? mark text else none
  | [] => none

variable {mark : Char}

theorem quoteMark_eq_or (text : Text) : quoteMark text = '\'' ∨ quoteMark text = '"' := by
  unfold quoteMark
  split
  · exact Or.inr rfl
  · exact Or.inl rfl

theorem takeQuotedChar?_of_ne {c : Char} (h : c ≠ '\\') (rest : Text) :
    takeQuotedChar? (c :: rest) = some (c, rest) := by
  unfold takeQuotedChar?
  split
  · next heq => exact absurd (List.cons.inj heq).1 h
  · next heq =>
    obtain ⟨rfl, rfl⟩ := List.cons.inj heq
    exact if_neg h
  · next heq => exact absurd heq (List.cons_ne_nil _ _)

/-- A character is read back from what it is written as. -/
theorem takeQuotedChar?_quoteChar (hmark : mark = '\'' ∨ mark = '"') (c : Char) (rest : Text) :
    takeQuotedChar? (quoteChar mark c ++ rest) = some (c, rest) := by
  have hlimit := (Json.toNat_bounds c).2
  unfold quoteChar
  split
  · next hspecial =>
    simp only [Bool.or_eq_true, decide_eq_true_eq] at hspecial
    rcases hspecial with rfl | rfl
    · rcases hmark with rfl | rfl
      · rfl
      · rfl
    · rfl
  · next hspecial =>
    simp only [Bool.or_eq_true, decide_eq_true_eq, not_or] at hspecial
    -- three controls have a letter
    split
    · next hc =>
      rw [hc]
      rfl
    split
    · next hc =>
      rw [hc]
      rfl
    split
    · next hc =>
      rw [hc]
      rfl
    split
    · exact takeQuotedChar?_of_ne hspecial.2 rest
    -- the letter of a code is that of the first width that it fits in
    split
    · next hcode => exact takeCode?_hexCode 2 hcode rest
    split
    · next hcode => exact takeCode?_hexCode 4 hcode rest
    · exact takeCode?_hexCode 8 (Nat.lt_trans hlimit (by decide)) rest

/-- What a character is written as does not start with the mark. -/
theorem exists_quoteChar_eq_cons (hmark : mark = '\'' ∨ mark = '"') (c : Char) :
    ∃ first more, quoteChar mark c = first :: more ∧ first ≠ mark := by
  have hbackslash : '\\' ≠ mark := by
    rcases hmark with rfl | rfl
    · decide
    · decide
  unfold quoteChar
  split
  · exact ⟨_, _, rfl, hbackslash⟩
  · next hspecial =>
    simp only [Bool.or_eq_true, decide_eq_true_eq, not_or] at hspecial
    split_ifs
    all_goals first
      | exact ⟨_, _, rfl, hbackslash⟩
      | exact ⟨_, _, rfl, hspecial.1⟩

/-! ### Texts -/

theorem takeQuotedUntil?_quoteChar (hmark : mark = '\'' ∨ mark = '"') (c : Char) (rest : Text) :
    takeQuotedUntil? mark (quoteChar mark c ++ rest) =
      (takeQuotedUntil? mark rest).map fun (text, behind) => (c :: text, behind) := by
  obtain ⟨first, more, hcons, hne⟩ := exists_quoteChar_eq_cons hmark c
  have hread := takeQuotedChar?_quoteChar hmark c rest
  rw [hcons, List.cons_append] at hread ⊢
  rw [takeQuotedUntil?, if_neg hne, hread]
  exact if_pos (by rw [List.length_append]; omega)

/-- The characters of a text come back one by one, up to the mark. -/
theorem takeQuotedUntil?_flatMap (hmark : mark = '\'' ∨ mark = '"') (text rest : Text) :
    takeQuotedUntil? mark (text.flatMap (quoteChar mark) ++ mark :: rest) = some (text, rest) := by
  induction text with
  | nil => rw [List.flatMap_nil, List.nil_append, takeQuotedUntil?, if_pos rfl]
  | cons c text ih =>
    rw [List.flatMap_cons, List.append_assoc, takeQuotedUntil?_quoteChar hmark, ih]
    rfl

/-- **A quoted text is read back**, whatever it holds and whatever is written behind it. -/
theorem takeQuoted?_quoted (text rest : Text) :
    takeQuoted? (quoted text ++ rest) = some (text, rest) := by
  have hmark := quoteMark_eq_or text
  have hread := takeQuotedUntil?_flatMap hmark text rest
  have hquoted : quoted text ++ rest =
      quoteMark text :: (text.flatMap (quoteChar (quoteMark text)) ++ quoteMark text :: rest) := by
    simp [quoted]
  have htest : (decide (quoteMark text = '\'') || decide (quoteMark text = '"')) = true := by
    rwa [Bool.or_eq_true, decide_eq_true_eq, decide_eq_true_eq]
  rw [hquoted, takeQuoted?, if_pos htest, hread]

/-! ### Lines -/

/-- What is printable breaks no line. -/
theorem isLineBreak_of_isPrintable {c : Char} (h : isPrintable c = true) :
    isLineBreak c = false := by
  by_contra hbreak
  have hcode : ∀ n, isPrintable (Char.ofNat n) = false → c.toNat ≠ n := by
    rintro n hn rfl
    rw [Char.ofNat_toNat, h] at hn
    cases hn
  have hnext := hcode 0x85 (by decide +kernel)
  have hline := hcode 0x2028 (by decide +kernel)
  have hparagraph := hcode 0x2029 (by decide +kernel)
  simp only [isLineBreak, Bool.not_eq_false, Bool.or_eq_true, Bool.and_eq_true, decide_eq_true_eq,
    beq_iff_eq] at hbreak
  have hlow : 0x20 ≤ c.toNat := ((isPrintable_ascii (by omega)).1 h).1
  omega

end Text

end SearchFilter
