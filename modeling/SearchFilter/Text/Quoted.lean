import SearchFilter.Text.Printable
import SearchFilter.Text.Hex

/-!
# The quoted form of a text

One line of printable characters from which the text can be read off. It is used where a message
shows a text that a user wrote.

* `isPrintable_of_mem_quoted`: only printable characters appear.
-/

namespace SearchFilter

namespace Text

/-- The mark around a quoted text: an apostrophe, or a double quote if the text holds
    an apostrophe and no double quote. -/
def quoteMark (text : Text) : Char :=
  if text.contains '\'' && !text.contains '"' then '"' else '\''

/-- One character of a quoted text. The mark and the backslash are escaped, three
    controls have a letter, and other non-printable characters stand as their code in
    the shortest of three widths. -/
def quoteChar (mark c : Char) : Text :=
  if c = mark || c = '\\' then ['\\', c]
  else if c = '\n' then ['\\', 'n']
  else if c = '\r' then ['\\', 'r']
  else if c = '\t' then ['\\', 't']
  else if isPrintable c then [c]
  else if c.toNat < 0x100 then '\\' :: 'x' :: hexCode 2 c.toNat
  else if c.toNat < 0x10000 then '\\' :: 'u' :: hexCode 4 c.toNat
  else '\\' :: 'U' :: hexCode 8 c.toNat

/-- The quoted form of a text. -/
def quoted (text : Text) : Text :=
  let mark := quoteMark text
  mark :: text.flatMap (quoteChar mark) ++ [mark]

theorem isPrintable_hexDigit {n : Nat} (h : n < 16) : isPrintable (hexDigit n) = true := by
  have hall : ∀ m < 16, isPrintable (hexDigit m) = true := by decide
  exact hall n h

theorem isPrintable_of_mem_hexCode {width n : Nat} {c : Char} (h : c ∈ hexCode width n) :
    isPrintable c = true := by
  induction width generalizing n with
  | zero => simp [hexCode] at h
  | succ width ih =>
    rcases List.mem_append.1 h with h | h
    · exact ih h
    · obtain rfl := List.mem_singleton.1 h
      exact isPrintable_hexDigit (Nat.mod_lt _ (by decide))

theorem isPrintable_quoteMark (text : Text) : isPrintable (quoteMark text) = true := by
  unfold quoteMark
  split <;> decide

theorem isPrintable_of_mem_quoteChar {mark c d : Char} (hmark : isPrintable mark = true)
    (h : d ∈ quoteChar mark c) : isPrintable d = true := by
  have hbackslash : isPrintable '\\' = true := by decide
  unfold quoteChar at h
  split at h
  · next hspecial =>
    simp only [Bool.or_eq_true, decide_eq_true_eq] at hspecial
    simp only [List.mem_cons, List.not_mem_nil, or_false] at h
    rcases h with rfl | rfl
    · exact hbackslash
    · rcases hspecial with rfl | rfl
      · exact hmark
      · exact hbackslash
  · repeat' split at h
    all_goals simp only [List.mem_cons, List.not_mem_nil, or_false] at h
    · rcases h with rfl | rfl <;> decide
    · rcases h with rfl | rfl <;> decide
    · rcases h with rfl | rfl <;> decide
    · subst h
      assumption
    all_goals
      rcases h with rfl | rfl | h
      · decide
      · decide
      · exact isPrintable_of_mem_hexCode h

/-- A quoted text is made of printable characters, whatever the text holds. -/
theorem isPrintable_of_mem_quoted {text : Text} {c : Char} (h : c ∈ quoted text) :
    isPrintable c = true := by
  have hmark := isPrintable_quoteMark text
  simp only [quoted, List.cons_append, List.mem_cons, List.mem_append, List.mem_flatMap,
    List.not_mem_nil, or_false] at h
  rcases h with rfl | ⟨d, _, h⟩ | rfl
  · exact hmark
  · exact isPrintable_of_mem_quoteChar hmark h
  · exact hmark

end Text

end SearchFilter
