import SearchFilter.Document.Basic
import SearchFilter.Proofs.Query.Writing
import SearchFilter.Proofs.Value.Literal

/-!
# Constraints as a query writes them

A clause is a field, a symbol and a value, one behind the other, and the clauses of a query are
separated by single spaces.

* `tokens_queryText`: the tokens of such a query are its clauses.
* `ofToken?_text`: each of them is read as the term that it was written from.
-/

namespace SearchFilter

/-! ### Clauses -/

/-- A field, an operator and a value as a query writes it. -/
structure Clause where
  field : Text
  operator : Operator
  literal : Literal

namespace Clause

/-- A clause as it is written. -/
def text (clause : Clause) : Text :=
  clause.field ++ clause.operator.symbol ++ clause.literal.text

/-- The constraint that is written. -/
def constraint (clause : Clause) : Constraint :=
  ⟨clause.field, clause.operator, clause.literal.value⟩

/-- The term that is written. -/
def term (clause : Clause) : Term :=
  ⟨clause.field, clause.operator, clause.literal.text, clause.text⟩

/-- The query that holds some clauses, separated by single spaces. -/
def queryText (clauses : List Clause) : Text := List.intercalate [' '] (clauses.map text)

/-- A field must have a name, with nothing in it that separates tokens or belongs to a symbol, and
an exclamation mark at its end would make another symbol of a colon. -/
structure IsWritable (clause : Clause) : Prop where
  field_ne_nil : clause.field ≠ []
  field_chars : ∀ c ∈ clause.field, c ∉ [' ', '"', '<', '>', ':']
  field_last : clause.field.getLast? ≠ some '!'
  literal : clause.literal.IsWritable

theorem isWritable_iff {clause : Clause} : clause.IsWritable ↔ clause.field ≠ [] ∧
    (∀ c ∈ clause.field, c ∉ [' ', '"', '<', '>', ':']) ∧ clause.field.getLast? ≠ some '!' ∧
      clause.literal.IsWritable :=
  ⟨fun h => ⟨h.field_ne_nil, h.field_chars, h.field_last, h.literal⟩,
    fun ⟨hne, hchars, hlast, hliteral⟩ => ⟨hne, hchars, hlast, hliteral⟩⟩

instance (clause : Clause) : Decidable clause.IsWritable :=
  -- one by one the characters of the field, and not all that there are
  letI : Decidable (∀ c ∈ clause.field, c ∉ [' ', '"', '<', '>', ':']) := List.decidableBAll _ _
  decidable_of_iff _ isWritable_iff.symm

end Clause

/-! ### The tokens of a query -/

namespace Query

/-- A text with no quotation but one is not ambiguous: nothing in front of that one reads like
it. -/
theorem not_isAmbiguous_of_count_le {token : Text} (h : token.count '"' ≤ 2) :
    ¬ IsAmbiguous token := by
  rintro ⟨front, inner, ⟨back, rfl, -, -⟩, -, hinfix⟩
  have hcount := hinfix.sublist.count_le '"'
  simp only [List.count_append, List.count_cons_self, List.count_nil] at h hcount
  omega

/-- Characters that are neither spaces nor quotes join the word behind them. -/
theorem Reads.bare_append {front query : Text} {word : List Part} {words : List (List Part)}
    (hfront : ∀ c ∈ front, c ≠ ' ' ∧ c ≠ '"') (h : Reads query (word :: words)) :
    Reads (front ++ query) ((front.map .bare ++ word) :: words) := by
  induction front with
  | nil => exact h
  | cons c front ih =>
    obtain ⟨⟨hspace, hquote⟩, hrest⟩ := List.forall_mem_cons.1 hfront
    exact .bare hspace (fun hc => absurd hc hquote) (ih hrest)

theorem wordText_bare_append (front : Text) (word : List Part) :
    wordText (front.map .bare ++ word) = front ++ wordText word := by
  induction front with
  | nil => rfl
  | cons c front ih =>
    rw [List.map_cons, List.cons_append, wordText_cons, ih]
    rfl

/-- A word by itself with at most one quotation stays as it is. -/
theorem words_of_reads_singleton {query : Text} {word : List Part} (h : Reads query [word])
    (htext : wordText word = query) (hcount : query.count '"' ≤ 2) : words query = [query] := by
  have hword : IsWord word := h.isWord word (List.mem_singleton_self word)
  have hrestored : restored word = wordText word := by
    rw [restored_eq_iff hword, htext]
    exact not_isAmbiguous_of_count_le hcount
  rw [h.words_eq, List.map_singleton, hrestored, htext]

end Query

namespace Literal

/-- A value is one word, with at most one quotation in it. -/
theorem exists_reads_text {literal : Literal} (h : literal.IsWritable) :
    ∃ word, Query.Reads literal.text [word] ∧ Query.wordText word = literal.text := by
  -- a text without spaces and quotes is a word as it stands
  have hbare : ∀ front : Text, (∀ c ∈ front, c ≠ ' ' ∧ c ≠ '"') →
      ∃ word, Query.Reads front [word] ∧ Query.wordText word = front := by
    intro front hfront
    have hreads := Query.Reads.bare_append hfront .nil
    have htext := Query.wordText_bare_append front []
    rw [List.append_nil front] at hreads
    exact ⟨_, hreads, htext.trans (List.append_nil front)⟩
  cases literal with
  | number n =>
    refine hbare n.text fun c hc => ?_
    have hmem := PlainNumber.mem_of_mem_text hc
    constructor
    · rintro rfl
      exact absurd hmem (by decide)
    · rintro rfl
      exact absurd hmem (by decide)
  | boolean b =>
    have hword : ∀ b, (booleanText b).all (fun c => c != ' ' && c != '"') = true := by decide
    refine hbare (booleanText b) fun c hc => ?_
    have hchar := List.all_eq_true.1 (hword b) c hc
    rwa [Bool.and_eq_true, bne_iff_ne, bne_iff_ne] at hchar
  | string text =>
    refine ⟨[.quotation text], .quotation h.1 .nil, ?_⟩
    rw [Query.wordText_cons]
    exact List.append_nil _

theorem count_quote_text {literal : Literal} (h : literal.IsWritable) :
    literal.text.count '"' = 0 ∨ literal.text.count '"' = 2 := by
  cases literal with
  | number n =>
    refine Or.inl (List.count_eq_zero_of_not_mem fun hc => ?_)
    exact absurd (PlainNumber.mem_of_mem_text hc) (by decide)
  | boolean b => exact Or.inl (by cases b <;> decide)
  | string text =>
    refine Or.inr ?_
    rw [Literal.text, List.count_append, List.count_cons_self,
      List.count_eq_zero_of_not_mem h.1]
    rfl

end Literal

namespace Clause

variable {clause : Clause}

theorem IsWritable.isName (h : clause.IsWritable) : Term.IsName clause.field :=
  ⟨h.field_ne_nil, h.field_chars, h.field_last⟩

/-- Nothing in front of a value is a space or a quote. -/
theorem front_chars (h : clause.IsWritable) :
    ∀ c ∈ clause.field ++ clause.operator.symbol, c ≠ ' ' ∧ c ≠ '"' :=
  h.isName.bare clause.operator

theorem count_quote_front (h : clause.IsWritable) :
    (clause.field ++ clause.operator.symbol).count '"' = 0 :=
  List.count_eq_zero_of_not_mem fun hc => (front_chars h _ hc).2 rfl

theorem count_quote (h : clause.IsWritable) :
    clause.text.count '"' = 0 ∨ clause.text.count '"' = 2 := by
  rw [text, List.count_append, count_quote_front h, Nat.zero_add]
  exact Literal.count_quote_text h.literal

theorem even_count_quote (h : clause.IsWritable) : Even (clause.text.count '"') := by
  rcases count_quote h with hcount | hcount
  · rw [hcount]
    exact Even.zero
  · rw [hcount]
    exact even_two

theorem words_text (h : clause.IsWritable) : Query.words clause.text = [clause.text] := by
  obtain ⟨word, hreads, htext⟩ := Literal.exists_reads_text h.literal
  have hclause := hreads.bare_append (front_chars h)
  have hcount : clause.text.count '"' ≤ 2 := by
    rcases count_quote h with hcount | hcount <;> omega
  refine Query.words_of_reads_singleton hclause ?_ hcount
  rw [Query.wordText_bare_append, htext]
  rfl

theorem text_ne_nil (h : clause.IsWritable) : clause.text ≠ [] := by
  simp [text, h.field_ne_nil]

theorem tokens_text (h : clause.IsWritable) : Query.tokens clause.text = [clause.text] := by
  rw [Query.tokens, words_text h, List.filter_eq_self, List.forall_mem_singleton]
  simpa using text_ne_nil h

/-- The tokens of a written query are its clauses. -/
theorem tokens_queryText {clauses : List Clause} (h : ∀ clause ∈ clauses, clause.IsWritable) :
    Query.tokens (queryText clauses) = clauses.map text := by
  have heven : ∀ piece ∈ clauses.map text, Even (piece.count '"') :=
    List.forall_mem_map.2 fun clause hclause => even_count_quote (h clause hclause)
  rw [queryText, Query.tokens_intercalate heven, List.flatMap_map,
    List.flatMap_congr fun clause hclause => tokens_text (h clause hclause),
    ← List.map_eq_flatMap]

end Clause

/-! ### The terms of the tokens -/

/-- A value that can be written can stand behind every symbol. -/
theorem Literal.IsWritable.isValueText {literal : Literal} (h : literal.IsWritable) :
    Term.IsValueText literal.text :=
  ⟨literal.text_ne_nil, Literal.not_mem_text h, Literal.not_infix_text h, literal.head?_text⟩

/-- A clause is read as the term that it was written from. -/
theorem Clause.ofToken?_text {clause : Clause} (h : clause.IsWritable) :
    Term.ofToken? clause.text = some clause.term :=
  Term.ofToken?_append h.isName h.literal.isValueText clause.operator

end SearchFilter
