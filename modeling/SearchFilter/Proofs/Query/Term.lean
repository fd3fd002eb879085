import SearchFilter.Proofs.Text.Occurrence
import SearchFilter.Term

/-!
# When a token is a term

The operator is the first in the order of detection whose symbol occurs anywhere in the token, and
the token is cut at the first place where that symbol occurs.

* `detect?_eq_some_iff`: which operator is found in a token.
* `ofToken?_eq_some_iff`: the terms of a token, without the search for them.
* `ofToken?_iff_isDivided`: a token that can be divided is a term, and it can be divided in one way
  only.
-/

namespace SearchFilter

namespace Text

/-- A cut is at the first occurrence: none starts in front of it. -/
theorem not_infix_of_cutAt? {pattern text before after : Text} (hne : pattern ≠ [])
    (h : cutAt? pattern text = some (before, after)) :
    ¬ pattern <:+: before ++ pattern.dropLast := by
  intro hinfix
  cases hcut : cutAt? pattern (before ++ pattern.dropLast) with
  | none => exact cutAt?_eq_none_iff.1 hcut hinfix
  | some cut =>
    obtain ⟨before', after'⟩ := cut
    -- what is found without the last character is found in the text, and it is too far in front
    have htext : text = before ++ pattern.dropLast ++ (pattern.getLast hne :: after) := by
      rw [cutAt?_eq_some h, append_append_eq_dropLast hne]
    have hfound := cutAt?_append hcut (pattern.getLast hne :: after)
    rw [← htext, h] at hfound
    obtain ⟨rfl, -⟩ := Prod.mk.inj (Option.some.inj hfound)
    have hlength := congrArg List.length (cutAt?_eq_some hcut)
    have hpos : 0 < pattern.length := List.length_pos_of_ne_nil hne
    simp only [List.length_append, List.length_dropLast] at hlength
    omega

/-- The cut of a text, without the search for it. -/
theorem cutAt?_eq_some_iff {pattern text before after : Text} (hne : pattern ≠ []) :
    cutAt? pattern text = some (before, after) ↔
      text = before ++ pattern ++ after ∧ ¬ pattern <:+: before ++ pattern.dropLast := by
  constructor
  · intro h
    exact ⟨cutAt?_eq_some h, not_infix_of_cutAt? hne h⟩
  · rintro ⟨rfl, h⟩
    exact cutAt?_append_append hne h after

/-- What occurs in front of a pattern's last character starts in front of the pattern. -/
theorem infix_append_dropLast_iff {pattern : Text} (hne : pattern ≠ []) (front back : Text) :
    pattern <:+: front ++ pattern.dropLast ↔
      ∃ place < front.length, pattern <+: (front ++ pattern ++ back).drop place := by
  have hlength : pattern.dropLast.length + 1 = pattern.length := by
    rw [List.length_dropLast, Nat.sub_add_cancel (List.length_pos_of_ne_nil hne)]
  have hwhole := append_append_eq_dropLast hne front back
  constructor
  · rintro ⟨left, right, heq⟩
    have htotal := congrArg List.length heq
    simp only [List.length_append] at htotal
    refine ⟨left.length, by omega, ?_⟩
    rw [hwhole, ← heq, List.append_assoc, List.append_assoc, List.drop_left]
    exact List.prefix_append _ _
  · rintro ⟨place, hplace, hstart⟩
    -- the occurrence with all in front of it is too short to reach the last character
    have htake : (front ++ pattern ++ back).take place = front.take place := by
      rw [List.append_assoc, List.take_append_of_le_length (Nat.le_of_lt hplace)]
    have hprefix : front.take place ++ pattern <+: front ++ pattern.dropLast := by
      have hall : front.take place ++ pattern <+: front ++ pattern ++ back := by
        rw [← htake]
        conv_rhs => rw [← List.take_append_drop place (front ++ pattern ++ back)]
        exact (List.prefix_append_right_inj _).2 hstart
      rw [hwhole] at hall
      refine List.prefix_of_prefix_length_le hall (List.prefix_append _ _) ?_
      rw [List.length_append, List.length_append, List.length_take]
      omega
    exact (List.suffix_append _ _).isInfix.trans hprefix.isInfix

end Text

/-! ### The operator of a token -/

namespace Operator

/-- The operators whose symbols a token is searched for before that of this one. -/
def earlier (operator : Operator) : List Operator := priority.takeWhile (· ≠ operator)

theorem exists_priority_eq (operator : Operator) :
    ∃ later, priority = operator.earlier ++ operator :: later := by
  cases operator with
  | equality => exact ⟨_, rfl⟩
  | comparison c =>
    cases c with
    | greaterOrEqual => exact ⟨_, rfl⟩
    | lessOrEqual => exact ⟨_, rfl⟩
    | greater => exact ⟨_, rfl⟩
    | less => exact ⟨_, rfl⟩
    | notEqual => exact ⟨_, rfl⟩

theorem earlier_cases_of_mem_priority : ∀ operator ∈ priority, ∀ other ∈ operator.earlier,
    ('<' ∈ other.symbol ∧ '<' ∉ operator.symbol ∨ '>' ∈ other.symbol ∧ '>' ∉ operator.symbol) ∨
      (other.symbol = ['<', '='] ∧ operator.symbol = ['<'] ∨
        other.symbol = ['>', '='] ∧ operator.symbol = ['>']) ∨
        other.symbol = ['!', ':'] ∧ operator = .equality := by
  decide

/-- How an operator stands to one that is sought after it: it has a sign that the other one has
not, or it goes on where the other one ends, or it is the one that ends in a colon. -/
theorem earlier_cases {operator other : Operator} (h : other ∈ operator.earlier) :
    (∃ c ∈ ['<', '>'], c ∈ other.symbol ∧ c ∉ operator.symbol) ∨
      (∃ c ∈ ['<', '>'], other.symbol = [c, '='] ∧ operator.symbol = [c]) ∨
        other.symbol = ['!', ':'] ∧ operator = .equality := by
  have hless : '<' ∈ ['<', '>'] := List.mem_cons_self
  have hgreater : '>' ∈ ['<', '>'] := List.mem_cons_of_mem _ List.mem_cons_self
  rcases earlier_cases_of_mem_priority operator (mem_priority operator) other h with
    (hsign | hsign) | (hmore | hmore) | hcolon
  · exact Or.inl ⟨'<', hless, hsign⟩
  · exact Or.inl ⟨'>', hgreater, hsign⟩
  · exact Or.inr (Or.inl ⟨'<', hless, hmore⟩)
  · exact Or.inr (Or.inl ⟨'>', hgreater, hmore⟩)
  · exact Or.inr (Or.inr hcolon)

/-- A token's operator occurs in it, and none of the earlier ones does. -/
theorem detect?_eq_some_iff {token : Text} {operator : Operator} :
    detect? token = some operator ↔
      operator.symbol <:+: token ∧ ∀ other ∈ operator.earlier, ¬ other.symbol <:+: token := by
  rw [detect?, List.find?_eq_some_iff_append, Text.occursIn_iff]
  refine and_congr_right fun hoccurs => ?_
  have hnot : ∀ other : Operator, (!Text.occursIn other.symbol token) = true ↔
      ¬ other.symbol <:+: token := by
    intro other
    rw [← Text.occursIn_iff, Bool.not_eq_true', Bool.not_eq_true]
  constructor
  · rintro ⟨front, back, hpriority, hfront⟩
    -- the operator occurs, so that it is none of those in front
    have hne : ∀ other ∈ front, decide (other ≠ operator) = true := by
      intro other hother
      rw [decide_eq_true_eq]
      rintro rfl
      exact (hnot other).1 (hfront other hother) hoccurs
    have hearlier : operator.earlier = front := by
      rw [earlier, hpriority, List.takeWhile_append_of_pos hne,
        List.takeWhile_cons_of_neg (by simp), List.append_nil]
    rw [hearlier]
    exact fun other hother => (hnot other).1 (hfront other hother)
  · intro h
    obtain ⟨later, hpriority⟩ := exists_priority_eq operator
    exact ⟨operator.earlier, later, hpriority, fun other hother => (hnot other).2 (h other hother)⟩

end Operator

/-! ### The term of a token -/

namespace Term

/-- A token is a term exactly if it can be taken apart so that there is a field, a comparison has
a value, the symbol does not occur earlier and no earlier operator occurs at all. -/
theorem ofToken?_eq_some_iff {token : Text} {term : Term} :
    ofToken? token = some term ↔
      term.source = token ∧ token = term.field ++ term.operator.symbol ++ term.rawValue ∧
        term.field ≠ [] ∧ (term.rawValue ≠ [] ∨ term.operator = .equality) ∧
        ¬ term.operator.symbol <:+: term.field ++ term.operator.symbol.dropLast ∧
        ∀ other ∈ term.operator.earlier, ¬ other.symbol <:+: token := by
  obtain ⟨field, operator, rawValue, source⟩ := term
  have hvalue : (rawValue.isEmpty && !operator.isEquality) = false ↔
      rawValue ≠ [] ∨ operator = .equality := by
    cases operator with
    | equality => simp [Operator.isEquality]
    | comparison c => simp [Operator.isEquality]
  simp only [ofToken?, Option.bind_eq_bind, Option.bind_eq_some_iff]
  constructor
  · rintro ⟨operator', hdetect, ⟨field', rawValue'⟩, hcut, h⟩
    split at h
    · cases h
    · next hfield =>
      split at h
      · cases h
      · next hraw =>
        obtain ⟨rfl, rfl, rfl, rfl⟩ := Term.mk.inj (Option.some.inj h)
        obtain ⟨htoken, hfirst⟩ := (Text.cutAt?_eq_some_iff operator'.symbol_ne_nil).1 hcut
        refine ⟨rfl, htoken, by simpa using hfield, hvalue.1 (by simpa using hraw), hfirst, ?_⟩
        exact (Operator.detect?_eq_some_iff.1 hdetect).2
  · -- the symbol occurs, and no earlier one does, so that it is the one that is found
    rintro ⟨rfl, htoken, hfield, hraw, hfirst, hearlier⟩
    have hoccurs : operator.symbol <:+: source := by
      rw [htoken]
      exact List.infix_append _ _ _
    refine ⟨operator, Operator.detect?_eq_some_iff.2 ⟨hoccurs, hearlier⟩, (field, rawValue),
      (Text.cutAt?_eq_some_iff operator.symbol_ne_nil).2 ⟨htoken, hfirst⟩, ?_⟩
    rw [if_neg (by simpa using hfield), hvalue.2 hraw, if_neg Bool.false_ne_true]

/-- A token is divided into a field, an operator's symbol and a raw value. There is a field, and a
value unless the operator is equality; the symbol does not start in front of the place where the
token is divided, and no operator with an earlier turn occurs anywhere. -/
structure IsDivided (token field : Text) (operator : Operator) (rawValue : Text) : Prop where
  parts : token = field ++ operator.symbol ++ rawValue
  hasField : field ≠ []
  hasValue : rawValue ≠ [] ∨ operator = .equality
  first : ∀ place < field.length, ¬ operator.symbol <+: token.drop place
  earlier : ∀ other ∈ operator.earlier, ¬ other.symbol <:+: token

variable {token field rawValue : Text} {operator : Operator}

theorem ofToken?_eq_some_iff_isDivided :
    ofToken? token = some ⟨field, operator, rawValue, token⟩ ↔
      IsDivided token field operator rawValue := by
  rw [ofToken?_eq_some_iff]
  have hfirst (h : token = field ++ operator.symbol ++ rawValue) :
      ¬ operator.symbol <:+: field ++ operator.symbol.dropLast ↔
        ∀ place < field.length, ¬ operator.symbol <+: token.drop place := by
    rw [Text.infix_append_dropLast_iff operator.symbol_ne_nil field rawValue, ← h]
    push Not
    rfl
  constructor
  · rintro ⟨-, hparts, hfield, hvalue, hno, hearlier⟩
    exact ⟨hparts, hfield, hvalue, (hfirst hparts).1 hno, hearlier⟩
  · rintro ⟨hparts, hfield, hvalue, hno, hearlier⟩
    exact ⟨rfl, hparts, hfield, hvalue, (hfirst hparts).2 hno, hearlier⟩

/-- A token can be divided in one way only. -/
theorem IsDivided.unique {field' rawValue' : Text} {operator' : Operator}
    (h : IsDivided token field operator rawValue)
    (h' : IsDivided token field' operator' rawValue') :
    field = field' ∧ operator = operator' ∧ rawValue = rawValue' := by
  have hterm := ofToken?_eq_some_iff_isDivided.2 h
  rw [ofToken?_eq_some_iff_isDivided.2 h', Option.some.injEq, Term.mk.injEq] at hterm
  obtain ⟨hfield, hoperator, hrawValue, -⟩ := hterm
  exact ⟨hfield.symm, hoperator.symm, hrawValue.symm⟩

/-- The terms are the tokens that can be divided, each in its one way, and a term's parts written
one behind the other are its token. -/
theorem ofToken?_iff_isDivided (token : Text) :
    (∀ field operator rawValue,
      ofToken? token = some ⟨field, operator, rawValue, token⟩ ↔
        IsDivided token field operator rawValue) ∧
    (ofToken? token = none ↔
      ¬ ∃ field operator rawValue, IsDivided token field operator rawValue) ∧
    (∀ term, ofToken? token = some term →
      term.source = token ∧ term.field ++ term.operator.symbol ++ term.rawValue = token) ∧
    ∀ field operator rawValue field' operator' rawValue',
      IsDivided token field operator rawValue → IsDivided token field' operator' rawValue' →
        field = field' ∧ operator = operator' ∧ rawValue = rawValue' := by
  refine ⟨fun _ _ _ => ofToken?_eq_some_iff_isDivided, ?_, ?_, fun _ _ _ _ _ _ h h' => h.unique h'⟩
  · rw [Option.eq_none_iff_forall_ne_some]
    constructor
    · rintro hnone ⟨field, operator, rawValue, h⟩
      exact hnone _ (ofToken?_eq_some_iff_isDivided.2 h)
    · rintro hnone ⟨field, operator, rawValue, source⟩ hterm
      -- the source of a term is the token that it was read from
      obtain rfl : source = token := (source_ofToken? hterm).1
      exact hnone ⟨field, operator, rawValue, ofToken?_eq_some_iff_isDivided.1 hterm⟩
  · intro term hterm
    obtain ⟨hsource, hparts⟩ := source_ofToken? hterm
    exact ⟨hsource, hparts.symm⟩

/-- A field may not end where the colon behind it makes up a symbol with an earlier turn. -/
example : ofToken? "a!:b".toList =
    some ⟨['a'], .comparison .notEqual, ['b'], "a!:b".toList⟩ := by
  decide

end Term

end SearchFilter
