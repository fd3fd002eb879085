import SearchFilter.Proofs.Query.Tokens

/-!
# Tokens written as a query again

The tokens are written with a space between one and the next. Every token of a query keeps its
quotes in pairs, except for at most one, and behind that one there are no quotes. So no token can
close a quotation of another, and this stays so whichever tokens are left out.

* `isSettled_tokens`: the tokens of a query are such.
* `IsSettled.tokens_joined`: such tokens are those of the query that they are joined to.
-/

namespace SearchFilter

namespace Query

/-- Tokens written as a query, with a space between one and the next. -/
def joined (tokens : List Text) : Text := List.intercalate [' '] tokens

/-- Tokens that do not change when they are written behind one another: each is a token by itself,
and none behind one with an open quote has a quote. -/
structure IsSettled (tokens : List Text) : Prop where
  single : ∀ token ∈ tokens, Query.tokens token = [token]
  quotes : tokens.Pairwise fun token later => Even (token.count '"') ∨ '"' ∉ later

variable {query : Text} {words : List (List Part)} {tokens others : List Text}

theorem IsSettled.sublist (h : IsSettled tokens) (hsublist : others.Sublist tokens) :
    IsSettled others where
  single := fun token htoken => h.single token (hsublist.mem htoken)
  quotes := h.quotes.sublist hsublist

theorem IsSettled.tokens_joined (h : IsSettled tokens) : Query.tokens (joined tokens) = tokens := by
  rw [joined, tokens_intercalate_of_pairwise h.quotes, List.flatMap_congr h.single,
    List.flatMap_singleton']

/-! ### The tokens of a query -/

/-- A word by itself is a query of one word. -/
theorem IsWord.reads {word : List Part} (h : IsWord word) : Reads (wordText word) [word] := by
  induction h with
  | nil => exact .nil
  | bare hc hq _ ih => exact .bare hc hq ih
  | quotation hi _ ih =>
    rw [wordText_cons, Part.text, List.append_assoc]
    exact .quotation hi ih

/-- Only the word with the last quote of the query can have an odd number of quotes. -/
theorem Reads.pairwise_quotes (h : Reads query words) :
    (words.map wordText).Pairwise fun word later => Even (word.count '"') ∨ '"' ∉ later := by
  induction h with
  | nil => exact List.pairwise_singleton _ _
  | space _ ih => exact List.pairwise_cons.2 ⟨fun _ _ => Or.inl Even.zero, ih⟩
  | @bare c query word words hc hq h ih =>
    obtain ⟨hword, hwords⟩ := List.pairwise_cons.1 ih
    refine List.pairwise_cons.2 ⟨fun later hlater => ?_, hwords⟩
    by_cases hcq : c = '"'
    · -- a quote by itself is the last one of the query
      refine Or.inr fun hmem => hq hcq ?_
      obtain ⟨parts, hparts, rfl⟩ := List.mem_map.1 hlater
      exact h.mem_of_mem_wordText (List.mem_cons_of_mem _ hparts) hmem
    · show Even ((c :: wordText word).count '"') ∨ _
      rw [List.count_cons_of_ne hcq]
      exact hword later hlater
  | @quotation inner query word words hi _ ih =>
    obtain ⟨hword, hwords⟩ := List.pairwise_cons.1 ih
    refine List.pairwise_cons.2 ⟨fun later hlater => ?_, hwords⟩
    rw [wordText_cons, Part.text, List.append_assoc, List.singleton_append,
      even_count_quotation hi]
    exact hword later hlater

/-- Without the placeholder the words of a query are what its reading says. -/
theorem Reads.words_eq_wordText (h : Reads query words) (hplaceholder : placeholder ∉ query) :
    Query.words query = words.map wordText := by
  rw [h.words_eq]
  refine List.map_congr_left fun word hword => ?_
  rw [restored_eq_iff (h.isWord word hword)]
  intro hambiguous
  have hmem := placeholder_mem_of_isAmbiguous hambiguous
  exact hplaceholder (h.mem_of_mem_wordText hword hmem)

/-- A word without the placeholder is its own token. -/
theorem IsWord.tokens_eq {word : List Part} (h : IsWord word) (hne : wordText word ≠ [])
    (hplaceholder : placeholder ∉ wordText word) :
    Query.tokens (wordText word) = [wordText word] := by
  rw [Query.tokens, h.reads.words_eq_wordText hplaceholder, List.map_singleton,
    List.filter_eq_self, List.forall_mem_singleton]
  simpa using hne

/-- The tokens of a query without the placeholder do not change when they are joined. -/
theorem isSettled_tokens (hplaceholder : placeholder ∉ query) : IsSettled (Query.tokens query) := by
  obtain ⟨word, more, hreads⟩ := exists_reads query
  have hwords := hreads.words_eq_wordText hplaceholder
  constructor
  · intro token htoken
    have hne := ne_nil_of_mem_tokens htoken
    have hmem := (List.mem_filter.1 htoken).1
    rw [hwords] at hmem
    obtain ⟨parts, hparts, rfl⟩ := List.mem_map.1 hmem
    exact (hreads.isWord parts hparts).tokens_eq hne fun hchar =>
      hplaceholder (hreads.mem_of_mem_wordText hparts hchar)
  · rw [Query.tokens, hwords]
    exact hreads.pairwise_quotes.filter _

end Query

end SearchFilter
