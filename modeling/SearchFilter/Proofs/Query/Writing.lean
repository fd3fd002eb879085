import SearchFilter.Proofs.Query.Term
import SearchFilter.Proofs.Query.Tokens

/-!
# Writing a term

A name, a symbol and a value, one behind the other, are read as the term that they were written
from, for every operator: nothing in the name or in the value may belong to a symbol, and neither
may join the symbol between them to make another one.

* `Term.ofToken?_append`: the term comes back.
* `Query.tokens_of_bare`: a text without spaces and quotes is one token.
-/

namespace SearchFilter

namespace Query

/-- A text with nothing in it that separates or quotes is a token by itself. -/
theorem tokens_of_bare {text : Text} (hne : text ≠ []) (hbare : ∀ c ∈ text, c ≠ ' ' ∧ c ≠ '"') :
    tokens text = [text] := by
  have hquote : '"' ∉ text := fun hmem => (hbare _ hmem).2 rfl
  have hspace : ' ' ∉ text := fun hmem => (hbare _ hmem).1 rfl
  rw [tokens_of_not_mem hquote, Text.pieces_of_not_mem hspace, List.filter_eq_self,
    List.forall_mem_singleton]
  simpa using hne

end Query

namespace Term

/-! ### Names and values -/

/-- A name that can stand in front of every symbol: nothing in it separates tokens or belongs to a
symbol, and an exclamation mark at its end would make another symbol of a colon. -/
structure IsName (name : Text) : Prop where
  ne_nil : name ≠ []
  chars : ∀ c ∈ name, c ∉ [' ', '"', '<', '>', ':']
  last : name.getLast? ≠ some '!'

/-- A value that can stand behind every symbol: it has no sign of a comparison, holds no symbol with
a colon that is sought before the colon itself, and does not make a symbol longer. -/
structure IsValueText (value : Text) : Prop where
  ne_nil : value ≠ []
  not_mem : '<' ∉ value ∧ '>' ∉ value
  not_infix : ¬ ['!', ':'] <:+: value
  head : value.head? ≠ some '='

variable {name value : Text} {operator : Operator}

/-- Nothing in front of a value is a space or a quote. -/
theorem IsName.bare (h : IsName name) (operator : Operator) :
    ∀ c ∈ name ++ operator.symbol, c ≠ ' ' ∧ c ≠ '"' := by
  rw [List.forall_mem_append]
  constructor
  · intro c hc
    have hchars := h.chars c hc
    constructor
    · rintro rfl
      exact hchars (by decide)
    · rintro rfl
      exact hchars (by decide)
  · cases operator with
    | equality => simp [Operator.symbol]
    | comparison c => cases c <;> simp [Operator.symbol, Comparison.symbol]

/-! ### The term of a written token -/

/-- The signs of the comparisons stand in no name and in no value. -/
theorem not_mem_parts (hname : IsName name) (hvalue : IsValueText value) {c : Char}
    (hc : c ∈ ['<', '>']) : c ∉ name ∧ c ∉ value := by
  obtain ⟨hless, hgreater⟩ := hvalue.not_mem
  have hchars : ['<', '>'] ⊆ [' ', '"', '<', '>', ':'] := by simp
  refine ⟨fun hmem => hname.chars c hmem (hchars hc), ?_⟩
  rw [List.mem_cons, List.mem_singleton] at hc
  rcases hc with rfl | rfl
  · exact hless
  · exact hgreater

theorem not_mem_append (hname : IsName name) (hvalue : IsValueText value) {c : Char}
    (hc : c ∈ ['<', '>']) (hsymbol : c ∉ operator.symbol) :
    c ∉ name ++ operator.symbol ++ value := by
  obtain ⟨hleft, hright⟩ := not_mem_parts hname hvalue hc
  simp [hleft, hsymbol, hright]

/-- A symbol of one character is not continued by a sign of equality. -/
theorem not_infix_append_of_symbol (hname : IsName name) (hvalue : IsValueText value) {c : Char}
    (hc : c ∈ ['<', '>']) (hsymbol : operator.symbol = [c]) :
    ¬ [c, '='] <:+: name ++ operator.symbol ++ value := by
  obtain ⟨hleft, hright⟩ := not_mem_parts hname hvalue hc
  intro hinfix
  rw [hsymbol, List.append_assoc] at hinfix
  rcases Text.pair_infix_append hinfix with hfront | hback | ⟨hlast, -⟩
  · exact hleft (hfront.subset List.mem_cons_self)
  · rcases Text.pair_infix_append hback with hsymbol | hbehind | ⟨-, hhead⟩
    · exact absurd hsymbol.length_le (by simp)
    · exact hright (hbehind.subset List.mem_cons_self)
    · exact hvalue.head hhead
  · exact hleft (List.mem_of_getLast? hlast)

/-- A colon by itself is no part of the symbol of a comparison. -/
theorem not_infix_append_of_equality (hname : IsName name) (hvalue : IsValueText value) :
    ¬ ['!', ':'] <:+: name ++ Operator.equality.symbol ++ value := by
  intro hinfix
  rw [show Operator.equality.symbol = [':'] from rfl, List.append_assoc] at hinfix
  rcases Text.pair_infix_append hinfix with hfront | hback | ⟨hlast, -⟩
  · exact hname.chars ':' (hfront.subset (by decide)) (by decide)
  · rcases Text.pair_infix_append hback with hcolon | hbehind | ⟨hcolon, -⟩
    · exact absurd hcolon (by decide)
    · exact hvalue.not_infix hbehind
    · exact absurd hcolon (by decide)
  · exact hname.last hlast

/-- No operator that is sought earlier occurs in a written token. -/
theorem not_infix_append_of_earlier (hname : IsName name) (hvalue : IsValueText value)
    {other : Operator} (hother : other ∈ operator.earlier) :
    ¬ other.symbol <:+: name ++ operator.symbol ++ value := by
  rcases Operator.earlier_cases hother with ⟨c, hc, hmem, hsymbol⟩ | ⟨c, hc, hmore, hsymbol⟩ |
    ⟨hpair, rfl⟩
  · exact Text.not_infix_of_not_mem hmem (not_mem_append hname hvalue hc hsymbol)
  · rw [hmore]
    exact not_infix_append_of_symbol hname hvalue hc hsymbol
  · rw [hpair]
    exact not_infix_append_of_equality hname hvalue

/-- A symbol does not begin in the name in front of it. -/
theorem IsName.not_infix (h : IsName name) (operator : Operator) :
    ¬ operator.symbol <:+: name ++ operator.symbol.dropLast := by
  have hcolon : ':' ∉ name := fun hmem => h.chars ':' hmem (by decide)
  have hsign : ∀ c ∈ ['<', '>'], c ∉ name := by
    intro c hc hmem
    have hchars : ['<', '>'] ⊆ [' ', '"', '<', '>', ':'] := by simp
    exact h.chars c hmem (hchars hc)
  have hsingle : ∀ c ∈ ['<', '>'], ¬ [c] <:+: name ++ [] := by
    intro c hc
    rw [List.append_nil]
    exact Text.not_infix_of_not_mem List.mem_cons_self (hsign c hc)
  have hpair : ∀ c ∈ ['<', '>'], ¬ [c, '='] <:+: name ++ [c] := by
    intro c hc hinfix
    rcases Text.pair_infix_append hinfix with hfield | hsymbol | ⟨hlast, -⟩
    · exact hsign c hc (hfield.subset List.mem_cons_self)
    · exact absurd hsymbol.length_le (by simp)
    · exact hsign c hc (List.mem_of_getLast? hlast)
  -- a symbol that ends with an equals sign leaves its first character behind the name
  cases operator with
  | equality =>
    have hmem : ':' ∉ name ++ [] := by simpa using hcolon
    exact Text.not_infix_of_not_mem List.mem_cons_self hmem
  | comparison c =>
    cases c with
    | greaterOrEqual => exact hpair '>' (by decide)
    | lessOrEqual => exact hpair '<' (by decide)
    | greater => exact hsingle '>' (by decide)
    | less => exact hsingle '<' (by decide)
    | notEqual =>
      have hmem : ':' ∉ name ++ ['!'] := by simpa using hcolon
      exact Text.not_infix_of_not_mem (List.mem_cons_of_mem _ List.mem_cons_self) hmem

/-- A name, a symbol and a value are read as the term that they were written from. -/
theorem ofToken?_append (hname : IsName name) (hvalue : IsValueText value) (operator : Operator) :
    ofToken? (name ++ operator.symbol ++ value) =
      some ⟨name, operator, value, name ++ operator.symbol ++ value⟩ :=
  ofToken?_eq_some_iff.2 ⟨rfl, rfl, hname.ne_nil, Or.inl hvalue.ne_nil, hname.not_infix operator,
    fun _ hother => not_infix_append_of_earlier hname hvalue hother⟩

end Term

end SearchFilter
