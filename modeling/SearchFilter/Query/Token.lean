import SearchFilter.Query.Span

/-!
# Tokens of a query

A query is split at its spaces, except for those between a pair of double quotes; the quotes stay
where they are.

* `tokens_nil`: the empty query has no tokens.
* `ne_nil_of_mem_tokens`: no token is empty.
-/

namespace SearchFilter

namespace Query

/-- Shows the spaces of a span again, in the word that it belongs to. -/
def restore (words : List Text) (span : Span) : List Text :=
  words.modify span.wordIndex (Text.replaceFirst span.hidden span.text)

/-- The words of a query: it is split with the spaces of its quoted spans hidden, and
    then the spans are restored one by one. Spaces in a row leave empty words. -/
def words (query : Text) : List Text :=
  let (substituted, spans) := Span.protect query
  spans.foldl restore (Text.pieces ' ' substituted)

/-- The tokens of a query (`split_terms`): its words that are not empty. -/
def tokens (query : Text) : List Text := (words query).filter fun word => !word.isEmpty

@[simp] theorem tokens_nil : tokens [] = [] := by decide

theorem ne_nil_of_mem_tokens {query token : Text} (h : token ∈ tokens query) : token ≠ [] := by
  simpa using (List.mem_filter.1 h).2

end Query

end SearchFilter
