import SearchFilter.Text.Basic

/-!
# Quoted spans of a query

Double quotes pair off from the left; a last one without a partner is a character like any other.
While a query is split, the spaces inside the pairs are hidden behind a placeholder.

* `length_protect`: hiding spaces keeps the length.
-/

namespace SearchFilter

/-- Stands for a space inside a quoted span, U+001F. -/
def placeholder : Char := '\x1f'

/-- A quoted span of a query (`QuotedSpan`): the word that it belongs to, its text, and its text
with the spaces hidden. -/
structure Span where
  wordIndex : Nat
  text : Text
  hidden : Text
  deriving DecidableEq

namespace Span

/-- A text with its spaces hidden. -/
def hideSpaces (text : Text) : Text := text.map fun c => if c = ' ' then placeholder else c

/-- Hides the spaces of the quoted spans of the rest of a query, which starts in the word
    `word`. Inside a quotation, `opened` is the text read since its quote, the last
    character first. A quotation that does not end is left as it is. -/
def protectFrom (word : Nat) : (opened : Option Text) → Text → Text × List Span
  | none, [] => ([], [])
  | some opened, [] => ('"' :: opened.reverse, [])
  | none, c :: text =>
    if c = '"' then protectFrom word (some []) text
    else
      let (substituted, spans) := protectFrom (if c = ' ' then word + 1 else word) none text
      (c :: substituted, spans)
  | some opened, c :: text =>
    if c = '"' then
      let quotation := '"' :: opened.reverse ++ ['"']
      let (substituted, spans) := protectFrom word none text
      (hideSpaces quotation ++ substituted, ⟨word, quotation, hideSpaces quotation⟩ :: spans)
    else protectFrom word (some (c :: opened)) text

/-- A query with the spaces of its quoted spans hidden, and the spans in order
(`_protect_quoted_spans`). -/
def protect (query : Text) : Text × List Span := protectFrom 0 none query

@[simp] theorem length_hideSpaces (text : Text) : (hideSpaces text).length = text.length := by
  simp [hideSpaces]

theorem length_protectFrom (word : Nat) (opened : Option Text) (text : Text) :
    (protectFrom word opened text).1.length =
      text.length + (opened.map fun opened => opened.length + 1).getD 0 := by
  induction text generalizing word opened with
  | nil => cases opened <;> simp [protectFrom]
  | cons c text ih =>
    cases opened with
    | none =>
      unfold protectFrom
      split
      · simp [ih]
      · simp [ih]
    | some opened =>
      unfold protectFrom
      split
      · simp [ih]
        omega
      · simp [ih]
        omega

/-- Hiding spaces keeps the length of a query. -/
theorem length_protect (query : Text) : (protect query).1.length = query.length := by
  simp [protect, length_protectFrom]

end Span

end SearchFilter
