import SearchFilter.Proofs.Query.Tokens

/-!
# Which spaces separate

A space between two queries cuts the query that they are joined to, unless a quote that the first
one leaves open is closed by one of the second. Then the space, with all that stands beside it up to
the two quotes, is kept in one token.

The converse compares what the tokens hold together. Restoring a word may exchange its spaces with
placeholders, and so the comparison is made with all spaces hidden, up to the quote that closes the
open one: there the joined query has kept a space that the two queries do not have.

* `Reads.hideSpaces_flatten_tokens`: what the tokens hold, told from a reading.
* `tokens_append_space_iff`: when the tokens of two joined queries are those of both.
-/

namespace SearchFilter

namespace Query

open SearchFilter.Span (hideSpaces)

/-! ### The text of a reading -/

/-- What the words of a reading hold together: the query without its separating spaces. -/
def readText (words : List (List Part)) : Text := words.flatMap wordText

variable {query front back : Text} {words more : List (List Part)}

theorem readText_bare (c : Char) (word : List Part) (words : List (List Part)) :
    readText ((.bare c :: word) :: words) = c :: readText (word :: words) := rfl

theorem readText_quotation (inner : Text) (word : List Part) (words : List (List Part)) :
    readText ((.quotation inner :: word) :: words) =
      '"' :: inner ++ '"' :: readText (word :: words) := by
  simp [readText, Part.text]

/-- A reading only leaves out characters. -/
theorem Reads.readText_sublist (h : Reads query words) : (readText words).Sublist query := by
  induction h with
  | nil => exact List.Sublist.refl _
  | space _ ih => exact ih.cons _
  | bare _ _ _ ih => exact ih.cons_cons _
  | quotation _ _ ih =>
    rw [readText_quotation]
    exact (List.Sublist.refl _).append (ih.cons_cons _)

/-- Behind closed quotations a query is read as it would be by itself. -/
theorem Reads.exists_append (h : Reads front words) (heven : Even (front.count '"'))
    (hback : Reads back more) :
    ∃ word words', Reads (front ++ back) (word :: words') ∧
      readText (word :: words') = readText words ++ readText more := by
  induction h with
  | nil =>
    obtain ⟨word, words', rfl⟩ : ∃ word words', more = word :: words' := by
      cases hback with
      | nil => exact ⟨_, _, rfl⟩
      | space _ => exact ⟨_, _, rfl⟩
      | bare _ _ _ => exact ⟨_, _, rfl⟩
      | quotation _ _ => exact ⟨_, _, rfl⟩
    exact ⟨word, words', hback, rfl⟩
  | space _ ih =>
    rw [List.count_cons_of_ne (by decide)] at heven
    obtain ⟨word, words', hreads, htext⟩ := ih heven
    exact ⟨[], word :: words', .space hreads, htext⟩
  | @bare c front word words hc hq _ ih =>
    -- a quote by itself would be the last one of the front, so that the count is odd
    have hcq : c ≠ '"' := by
      intro hcq
      rw [hcq, List.count_cons_self, List.count_eq_zero_of_not_mem (hq hcq)] at heven
      exact absurd heven (by decide)
    rw [List.count_cons_of_ne hcq] at heven
    obtain ⟨word', words', hreads, htext⟩ := ih heven
    refine ⟨.bare c :: word', words', .bare hc (fun h => absurd h hcq) hreads, ?_⟩
    rw [readText_bare, readText_bare, htext, List.cons_append]
  | @quotation inner front word words hi _ ih =>
    obtain ⟨word', words', hreads, htext⟩ := ih ((even_count_quotation hi front).1 heven)
    refine ⟨.quotation inner :: word', words', ?_, ?_⟩
    · rw [List.append_assoc, List.cons_append]
      exact .quotation hi hreads
    · rw [readText_quotation, readText_quotation, htext, List.append_assoc]
      rfl

/-- A text that starts with a quote is read as one. -/
theorem Reads.exists_readText_eq_quote (h : Reads ('"' :: query) words) :
    ∃ rest, readText words = '"' :: rest := by
  cases h with
  | bare _ _ _ => exact ⟨_, rfl⟩
  | quotation _ _ => exact ⟨_, readText_quotation _ _ _⟩

/-! ### What the tokens hold -/

theorem hideSpaces_hideSpaces (text : Text) : hideSpaces (hideSpaces text) = hideSpaces text :=
  Span.hideSpaces_of_not_mem (Span.space_not_mem_hideSpaces text)

theorem hideSpaces_restore (part : Part) (text : Text) :
    hideSpaces (part.restore text) = hideSpaces text := by
  cases part with
  | bare c => rfl
  | quotation inner =>
    rw [Part.restore, Text.replaceFirst]
    split
    · next before after h =>
      rw [Text.cutAt?_eq_some h]
      simp only [Span.hideSpaces_append, hideSpaces_hideSpaces]
    · rfl

/-- Restoring a word changes nothing but hidden spaces and shown ones. -/
theorem hideSpaces_restored (word : List Part) :
    hideSpaces (restored word) = hideSpaces (wordText word) := by
  have hfold (parts : List Part) (text : Text) :
      hideSpaces (parts.foldl Part.restore text) = hideSpaces text := by
    induction parts generalizing text with
    | nil => rfl
    | cons part parts ih => rw [List.foldl_cons, ih, hideSpaces_restore]
  rw [restored, hfold, hideSpaces_hideSpaces]

theorem hideSpaces_flatten (texts : List Text) :
    hideSpaces texts.flatten = (texts.map hideSpaces).flatten := List.map_flatten

/-- With all spaces hidden the tokens hold what a reading of the query holds. -/
theorem Reads.hideSpaces_flatten_tokens (h : Reads query words) :
    hideSpaces (tokens query).flatten = hideSpaces (readText words) := by
  have hwords : (words.map restored).map hideSpaces = (words.map wordText).map hideSpaces := by
    rw [List.map_map, List.map_map]
    exact List.map_congr_left fun word _ => hideSpaces_restored word
  rw [flatten_tokens, h.words_eq, hideSpaces_flatten, hwords, ← hideSpaces_flatten, readText,
    List.flatMap_def]

/-- Behind closed quotations the tokens go on with what a reading of the rest holds. -/
theorem Reads.hideSpaces_flatten_tokens_append (h : Reads front words)
    (heven : Even (front.count '"')) (hback : Reads back more) :
    hideSpaces (tokens (front ++ back)).flatten =
      hideSpaces (readText words) ++ hideSpaces (readText more) := by
  obtain ⟨_, _, hreads, htext⟩ := h.exists_append heven hback
  rw [hreads.hideSpaces_flatten_tokens, htext, Span.hideSpaces_append]

/-! ### Open quotes -/

/-- A text with an odd number of quotes ends with a last quote behind closed quotations. -/
theorem exists_open_quote {text : Text} (h : ¬ Even (text.count '"')) :
    ∃ closed rest, text = closed ++ '"' :: rest ∧ Even (closed.count '"') ∧ '"' ∉ rest := by
  have hmem : '"' ∈ text := by
    by_contra hno
    rw [List.count_eq_zero_of_not_mem hno] at h
    exact h Even.zero
  -- the last quote is the first one of the reversed text
  obtain ⟨rest, closed, hreverse, hrest⟩ :=
    List.eq_append_cons_of_mem (List.mem_reverse.2 hmem)
  have htext : text = closed.reverse ++ '"' :: rest.reverse := by
    rw [← List.reverse_reverse text, hreverse]
    simp
  have hrest' : '"' ∉ rest.reverse := mt List.mem_reverse.1 hrest
  refine ⟨closed.reverse, rest.reverse, htext, ?_, hrest'⟩
  rw [htext, List.count_append, List.count_cons_self, List.count_eq_zero_of_not_mem hrest',
    Nat.zero_add, Nat.even_add_one, not_not] at h
  exact h

/-- What the tokens of a text with an open quote hold, up to that quote and behind it. -/
theorem exists_hideSpaces_of_open {closed rest : Text} {words : List (List Part)}
    (hclosed : Reads closed words) (heven : Even (closed.count '"')) (hrest : '"' ∉ rest) :
    ∃ kept, kept.Sublist rest ∧
      hideSpaces (tokens (closed ++ '"' :: rest)).flatten =
        hideSpaces (readText words) ++ '"' :: hideSpaces kept := by
  obtain ⟨word, more, hreads⟩ := exists_reads rest
  have hquote : Reads ('"' :: rest) ((.bare '"' :: word) :: more) :=
    .bare (by decide) (fun _ => hrest) hreads
  refine ⟨readText (word :: more), hreads.readText_sublist, ?_⟩
  rw [hclosed.hideSpaces_flatten_tokens_append heven hquote, readText_bare,
    Span.hideSpaces_cons_of_ne (by decide)]

/-- What the tokens of a text hold up to its first quote. -/
theorem exists_hideSpaces_of_quote {stretch : Text} (hstretch : '"' ∉ stretch) (rest : Text) :
    ∃ kept behind, kept.Sublist stretch ∧
      hideSpaces (tokens (stretch ++ '"' :: rest)).flatten =
        hideSpaces kept ++ '"' :: hideSpaces behind := by
  obtain ⟨word, more, hreads⟩ := exists_reads stretch
  obtain ⟨_, _, hquote⟩ := exists_reads ('"' :: rest)
  have heven : Even (stretch.count '"') := by
    rw [List.count_eq_zero_of_not_mem hstretch]
    exact Even.zero
  obtain ⟨behind, hbehind⟩ := hquote.exists_readText_eq_quote
  refine ⟨readText (word :: more), behind, hreads.readText_sublist, ?_⟩
  rw [hreads.hideSpaces_flatten_tokens_append heven hquote, hbehind,
    Span.hideSpaces_cons_of_ne (by decide)]

/-- What the tokens of a text hold up to the second quote of a quotation: all of the quotation. -/
theorem exists_hideSpaces_of_quotation {closed inner : Text} {words : List (List Part)}
    (hclosed : Reads closed words) (heven : Even (closed.count '"')) (hi : '"' ∉ inner)
    (rest : Text) :
    ∃ behind, hideSpaces (tokens (closed ++ ('"' :: inner ++ '"' :: rest))).flatten =
      hideSpaces (readText words) ++ '"' :: (hideSpaces inner ++ '"' :: hideSpaces behind) := by
  obtain ⟨word, more, hreads⟩ := exists_reads rest
  refine ⟨readText (word :: more), ?_⟩
  rw [hclosed.hideSpaces_flatten_tokens_append heven (.quotation hi hreads), readText_quotation,
    List.cons_append, Span.hideSpaces_cons_of_ne (by decide), Span.hideSpaces_append,
    Span.hideSpaces_cons_of_ne (by decide)]

/-! ### Separating spaces -/

/-- An open quote and a quote behind the space keep the space in a token. -/
theorem tokens_append_space_ne (hodd : ¬ Even (front.count '"')) (hmem : '"' ∈ back) :
    tokens (front ++ ' ' :: back) ≠ tokens front ++ tokens back := by
  intro heq
  obtain ⟨closed, rest, rfl, heven, hrest⟩ := exists_open_quote hodd
  obtain ⟨stretch, behind, rfl, hstretch⟩ := List.eq_append_cons_of_mem hmem
  obtain ⟨word, more, hclosed⟩ := exists_reads closed
  have hinner : '"' ∉ rest ++ ' ' :: stretch := by simp [hrest, hstretch]
  obtain ⟨after, hjoined⟩ := exists_hideSpaces_of_quotation hclosed heven hinner behind
  obtain ⟨kept, hkept, hfront⟩ := exists_hideSpaces_of_open hclosed heven hrest
  obtain ⟨kept', after', hkept', hback⟩ := exists_hideSpaces_of_quote hstretch behind
  have hwhole : closed ++ '"' :: rest ++ ' ' :: (stretch ++ '"' :: behind) =
      closed ++ ('"' :: (rest ++ ' ' :: stretch) ++ '"' :: behind) := by simp
  -- the two sides agree up to the open quote, and so in what stands from there to the next quote
  rw [hwhole] at heq
  rw [heq, List.flatten_append, Span.hideSpaces_append, hfront, hback, List.append_assoc,
    List.append_cancel_left_eq, List.cons_append, List.cons.injEq, ← List.append_assoc] at hjoined
  have hno : '"' ∉ hideSpaces kept ++ hideSpaces kept' := by
    rw [List.mem_append, Span.quote_mem_hideSpaces, Span.quote_mem_hideSpaces]
    rintro (hin | hin)
    · exact hrest (hkept.mem hin)
    · exact hstretch (hkept'.mem hin)
  have hno' : '"' ∉ hideSpaces (rest ++ ' ' :: stretch) := mt Span.quote_mem_hideSpaces.1 hinner
  have hstretches := (Text.append_cons_inj_of_not_mem hno hno' hjoined.2).1
  -- but one side has the space in there
  have hlength := congrArg List.length hstretches
  rw [List.length_append, Span.length_hideSpaces, Span.length_hideSpaces, Span.length_hideSpaces,
    List.length_append, List.length_cons] at hlength
  have hle := hkept.length_le
  have hle' := hkept'.length_le
  omega

/-- **Separating spaces.** A query is cut at a space into the tokens in front of the space and those
behind it exactly if the quotes in front are closed or no quote stands behind. The placeholder
may stand in either. -/
theorem tokens_append_space_iff (front back : Text) :
    tokens (front ++ ' ' :: back) = tokens front ++ tokens back ↔
      Even (front.count '"') ∨ '"' ∉ back := by
  constructor
  · intro h
    by_contra hopen
    obtain ⟨hodd, hmem⟩ := not_or.1 hopen
    exact tokens_append_space_ne hodd (not_not.1 hmem) h
  · exact tokens_append_space

end Query

end SearchFilter
