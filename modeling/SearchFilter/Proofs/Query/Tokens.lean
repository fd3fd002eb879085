import SearchFilter.Proofs.Query.Pairing
import SearchFilter.Proofs.Query.Restoration

/-!
# Tokens against the direct cut of a query

Hiding spaces and restoring them is a detour: where no placeholder occurs in a query, its tokens are
those of the direct cut.

* `tokens_eq_directTokens`: on a query without the placeholder the two are the same.
* `flatten_tokens_eq_iff`: on any query the tokens keep every character exactly if no token is
  ambiguous.
-/

namespace SearchFilter

namespace Text

/-- A text without the character is one piece. -/
theorem pieces_of_not_mem {mark : Char} {text : Text} (h : mark ∉ text) :
    pieces mark text = [text] := by
  have happend := pieces_append_of_not_mem h []
  rwa [List.append_nil, pieces, List.modifyHead_cons, List.append_nil] at happend

end Text

namespace Query

/-! ### Cutting at a separating space -/

/-- A space behind closed quotations, or in front of no further quote, separates. -/
theorem Reads.append_space {front back : Text} {words more : List (List Part)}
    (h : Reads front words) (hback : Reads back more)
    (hq : Even (front.count '"') ∨ '"' ∉ back) :
    Reads (front ++ ' ' :: back) (words ++ more) := by
  induction h with
  | nil => exact .space hback
  | space _ ih =>
    rw [List.count_cons_of_ne (by decide)] at hq
    exact .space (ih hq)
  | @bare c front word words hc hquote _ ih =>
    by_cases hcq : c = '"'
    · -- a quote by itself is the last one of the front, so that the count is odd
      have hback' : '"' ∉ back := by
        refine hq.resolve_left fun heven => ?_
        rw [hcq, List.count_cons_self, List.count_eq_zero_of_not_mem (hquote hcq)] at heven
        exact absurd heven (by decide)
      have hquote' : '"' ∉ front ++ ' ' :: back := by simp [hquote hcq, hback']
      exact .bare hc (fun _ => hquote') (ih (Or.inr hback'))
    · rw [List.count_cons_of_ne hcq] at hq
      exact .bare hc (fun h => absurd h hcq) (ih hq)
  | @quotation inner front word words hi _ ih =>
    rw [even_count_quotation hi] at hq
    rw [List.append_assoc, List.cons_append]
    exact .quotation hi (ih hq)

/-- The words of a query are those in front of such a space and those behind it. -/
theorem words_append_space {front back : Text} (hq : Even (front.count '"') ∨ '"' ∉ back) :
    words (front ++ ' ' :: back) = words front ++ words back := by
  obtain ⟨word, more, hfront⟩ := exists_reads front
  obtain ⟨word', more', hback⟩ := exists_reads back
  rw [(hfront.append_space hback hq).words_eq, hfront.words_eq, hback.words_eq, List.map_append]

theorem tokens_append_space {front back : Text} (hq : Even (front.count '"') ∨ '"' ∉ back) :
    tokens (front ++ ' ' :: back) = tokens front ++ tokens back := by
  rw [tokens, words_append_space hq, List.filter_append, tokens, tokens]

/-- Texts that are joined with spaces hold no other character than they do by themselves. -/
theorem not_mem_intercalate {c : Char} (hc : c ≠ ' ') {pieces : List Text}
    (h : ∀ piece ∈ pieces, c ∉ piece) : c ∉ List.intercalate [' '] pieces := by
  induction pieces with
  | nil => exact List.not_mem_nil
  | cons piece pieces ih =>
    obtain ⟨hpiece, hpieces⟩ := List.forall_mem_cons.1 h
    cases pieces with
    | nil => rwa [List.intercalate_singleton]
    | cons next pieces =>
      rw [List.intercalate_cons_cons, List.mem_append, List.mem_append, List.mem_singleton]
      rintro ((hmem | hspace) | hmem)
      · exact hpiece hmem
      · exact hc hspace
      · exact ih hpieces hmem

/-- The tokens of texts that are joined with spaces are those of the texts, as long as no text
behind one with an open quote could close it. -/
theorem tokens_intercalate_of_pairwise {pieces : List Text}
    (h : pieces.Pairwise fun piece later => Even (piece.count '"') ∨ '"' ∉ later) :
    tokens (List.intercalate [' '] pieces) = pieces.flatMap tokens := by
  induction pieces with
  | nil => exact tokens_nil
  | cons piece pieces ih =>
    obtain ⟨hpiece, hpieces⟩ := List.pairwise_cons.1 h
    cases pieces with
    | nil => rw [List.intercalate_singleton, List.flatMap_singleton]
    | cons next pieces =>
      have hq : Even (piece.count '"') ∨ '"' ∉ List.intercalate [' '] (next :: pieces) := by
        by_cases heven : Even (piece.count '"')
        · exact Or.inl heven
        · exact Or.inr (not_mem_intercalate (by decide) fun later hlater =>
            (hpiece later hlater).resolve_left heven)
      rw [List.intercalate_cons_cons, List.append_assoc, List.singleton_append,
        tokens_append_space hq, ih hpieces]
      exact List.flatMap_cons.symm

theorem tokens_intercalate {pieces : List Text} (h : ∀ piece ∈ pieces, Even (piece.count '"')) :
    tokens (List.intercalate [' '] pieces) = pieces.flatMap tokens := by
  refine tokens_intercalate_of_pairwise
    (List.pairwise_of_forall_mem_list fun piece hpiece _ _ => ?_)
  exact Or.inl (h piece hpiece)

/-- A text without quotes is split at all its spaces. -/
theorem words_of_not_mem {text : Text} (h : '"' ∉ text) : words text = Text.pieces ' ' text := by
  show (Span.protectFrom 0 none text).2.foldl restore
    (Text.pieces ' ' (Span.protectFrom 0 none text).1) = Text.pieces ' ' text
  rw [Span.protectFrom_of_not_mem h]
  rfl

theorem tokens_of_not_mem {text : Text} (h : '"' ∉ text) :
    tokens text = (Text.pieces ' ' text).filter fun word => !word.isEmpty := by
  rw [tokens, words_of_not_mem h]

/-- What stands behind the last quote of a query is split at all its spaces. The word that the
quote is in goes up to the first of them. -/
theorem tokens_append_of_not_mem {rest first : Text} {more : List Text} (h : '"' ∉ rest)
    (hpieces : Text.pieces ' ' rest = first :: more) (front : Text) :
    tokens (front ++ rest) = tokens (front ++ first) ++ more.filter fun word => !word.isEmpty := by
  by_cases hs : ' ' ∈ rest
  · obtain ⟨stretch, behind, rfl, hstretch⟩ := List.eq_append_cons_of_mem hs
    have hbehind : '"' ∉ behind := fun hmem => h (by simp [hmem])
    rw [Text.pieces_append_cons, Text.pieces_of_not_mem hstretch, List.singleton_append] at hpieces
    obtain ⟨rfl, rfl⟩ := List.cons.inj hpieces
    rw [← List.append_assoc, tokens_append_space (Or.inr hbehind), tokens_of_not_mem hbehind]
  · rw [Text.pieces_of_not_mem hs] at hpieces
    obtain ⟨rfl, rfl⟩ := List.cons.inj hpieces
    rw [List.filter_nil, List.append_nil]

/-! ### Against the direct cut -/

/-- The tokens hold every character of the words. -/
theorem flatten_tokens (query : Text) : (tokens query).flatten = (words query).flatten :=
  List.flatten_filter_not_isEmpty

theorem forall_directTokens_iff (query : Text) :
    (∀ token ∈ directTokens query, ¬ IsAmbiguous token) ↔
      ∀ word ∈ directWords query, ¬ IsAmbiguous word := by
  constructor
  · intro h word hword
    by_cases hempty : word = []
    · rintro ⟨front, inner, hhas, -⟩
      exact not_hasQuotation_nil front inner (hempty ▸ hhas)
    · exact h word (List.mem_filter.2 ⟨hword, by simpa using hempty⟩)
  · intro h token htoken
    exact h token (List.mem_filter.1 htoken).1

/-- The words of a query are those of the direct cut if none of these is ambiguous. -/
theorem words_eq_directWords {query : Text}
    (h : ∀ token ∈ directTokens query, ¬ IsAmbiguous token) : words query = directWords query := by
  obtain ⟨word, more, hreads⟩ := exists_reads query
  rw [forall_directTokens_iff, hreads.directWords_eq] at h
  rw [hreads.words_eq, hreads.directWords_eq]
  refine List.map_congr_left fun word hword => ?_
  exact (restored_eq_iff (hreads.isWord word hword)).2 (h _ (List.mem_map_of_mem hword))

/-- An ambiguous token holds a placeholder, in the stretch that its quotation is taken for. -/
theorem placeholder_mem_of_isAmbiguous {token : Text} (h : IsAmbiguous token) :
    placeholder ∈ token := by
  obtain ⟨front, inner, ⟨back, rfl, -⟩, hs, hinfix⟩ := h
  have hmem : placeholder ∈ '"' :: Span.hideSpaces inner ++ ['"'] := by
    simp [Span.placeholder_mem_hideSpaces hs]
  have hfront : placeholder ∈ front ++ ['"'] := hinfix.mem hmem
  rw [List.mem_append, List.mem_singleton] at hfront
  have hplaceholder := hfront.resolve_right (by decide)
  simp [hplaceholder]

theorem mem_of_mem_directWords {query word : Text} (h : word ∈ directWords query) {c : Char}
    (hc : c ∈ word) : c ∈ query := by
  obtain ⟨_, _, hreads⟩ := exists_reads query
  rw [hreads.directWords_eq] at h
  obtain ⟨parts, hparts, rfl⟩ := List.mem_map.1 h
  exact hreads.mem_of_mem_wordText hparts hc

/-- **Tokens without the placeholder.** On a query that does not hold the placeholder the tokens
are those of the direct cut. None of them holds the placeholder, and what stands behind the
last quote, with or without a partner, is split at its spaces. -/
theorem tokens_eq_directTokens (query : Text) (h : placeholder ∉ query) :
    tokens query = directTokens query ∧
    (∀ token ∈ tokens query, placeholder ∉ token) ∧
    ∀ front rest first more, query = front ++ '"' :: rest → '"' ∉ rest →
      Text.pieces ' ' rest = first :: more →
      tokens query =
        tokens (front ++ '"' :: first) ++ more.filter fun word => !word.isEmpty := by
  -- a token could only be ambiguous for a placeholder in it
  have hwords : words query = directWords query := by
    refine words_eq_directWords fun token htoken hambiguous => h ?_
    have hmem := placeholder_mem_of_isAmbiguous hambiguous
    exact mem_of_mem_directWords (List.mem_filter.1 htoken).1 hmem
  refine ⟨by rw [tokens, hwords, directTokens], ?_, ?_⟩
  · intro token htoken hmem
    have hword := (List.mem_filter.1 htoken).1
    rw [hwords] at hword
    exact h (mem_of_mem_directWords hword hmem)
  · rintro front rest first more rfl hrest hpieces
    have hbehind := tokens_append_of_not_mem hrest hpieces (front ++ ['"'])
    rwa [← List.append_cons, ← List.append_cons] at hbehind

/-- Two phrases in one token, a space run and a quote without a partner. -/
theorem tokens_eq_directTokens_unterminated :
    placeholder ∉ "t:\"x y\"\"x y\"  n:\"a b".toList ∧
    tokens "t:\"x y\"\"x y\"  n:\"a b".toList =
      directTokens "t:\"x y\"\"x y\"  n:\"a b".toList ∧
    tokens "t:\"x y\"\"x y\"  n:\"a b".toList =
      ["t:\"x y\"\"x y\"".toList, "n:\"a".toList, "b".toList] :=
  ⟨by decide, (tokens_eq_directTokens _ (by decide)).1, by decide⟩

/-- Two rows of stretches that agree in length agree together exactly if they agree one by one. -/
theorem flatten_map_inj {α β : Type} {f g : α → List β} {list : List α}
    (h : ∀ a ∈ list, (f a).length = (g a).length) :
    (list.map f).flatten = (list.map g).flatten ↔ ∀ a ∈ list, f a = g a := by
  induction list with
  | nil => simp
  | cons a list ih =>
    obtain ⟨ha, hlist⟩ := List.forall_mem_cons.1 h
    rw [List.map_cons, List.map_cons, List.flatten_cons, List.flatten_cons, List.forall_mem_cons,
      ← ih hlist]
    constructor
    · intro heq
      exact List.append_inj heq ha
    · rintro ⟨hfirst, hmore⟩
      rw [hfirst, hmore]

/-- **No character is lost**, moved or exchanged, exactly if no token is ambiguous: together the
tokens are then the query without its separating spaces. -/
theorem flatten_tokens_eq_iff (query : Text) :
    (tokens query).flatten = withoutSeparatingSpaces query ↔
      ∀ token ∈ directTokens query, ¬ IsAmbiguous token := by
  obtain ⟨word, more, hreads⟩ := exists_reads query
  rw [forall_directTokens_iff, flatten_tokens, ← flatten_directTokens, directTokens,
    List.flatten_filter_not_isEmpty, hreads.words_eq, hreads.directWords_eq,
    flatten_map_inj fun word _ => length_restored word, List.forall_mem_map]
  -- no word changes its length, so that the words agree one by one
  refine forall₂_congr fun word hword => ?_
  exact restored_eq_iff (hreads.isWord word hword)

/-- A placeholder between two quotes is taken for the space of the phrase behind it: the two
change places. -/
theorem flatten_tokens_ne_withoutSeparatingSpaces :
    (tokens ['"', placeholder, '"', '"', ' ', '"']).flatten ≠
      withoutSeparatingSpaces ['"', placeholder, '"', '"', ' ', '"'] := by
  decide

end Query

end SearchFilter
