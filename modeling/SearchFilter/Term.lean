import SearchFilter.Operator

/-!
# Terms

Tokens read as field, operator and raw value.

* `source_ofToken?`: the three parts of a term make up its token.
-/

namespace SearchFilter

/-- One `field operator value` triple of a query, with the token that it was read from. -/
structure Term where
  field : Text
  operator : Operator
  rawValue : Text
  source : Text
  deriving DecidableEq

namespace Term

/-- Reads a token as a term (`parse_term`). The token is cut at the first occurrence of its
operator, so that the value keeps any later one. A term has a field, and a comparison has a value;
an equality may go without one. -/
def ofToken? (token : Text) : Option Term := do
  let operator ← Operator.detect? token
  let (field, rawValue) ← Text.cutAt? operator.symbol token
  if field.isEmpty then none
  else if rawValue.isEmpty && !operator.isEquality then none
  else some ⟨field, operator, rawValue, token⟩

/-- A term's field, symbol and raw value, written one behind the other, are its token. -/
theorem source_ofToken? {token : Text} {term : Term} (h : ofToken? token = some term) :
    term.source = token ∧ token = term.field ++ term.operator.symbol ++ term.rawValue := by
  simp only [ofToken?, Option.bind_eq_bind, Option.bind_eq_some_iff] at h
  obtain ⟨operator, -, ⟨field, rawValue⟩, hcut, h⟩ := h
  split at h
  · simp at h
  · split at h
    · simp at h
    · obtain rfl := Option.some.inj h
      exact ⟨rfl, Text.cutAt?_eq_some hcut⟩

end Term

end SearchFilter
