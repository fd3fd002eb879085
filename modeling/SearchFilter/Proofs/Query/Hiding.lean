import SearchFilter.Proofs.Query.Pairing
import SearchFilter.Proofs.Query.Restoration

/-!
# Hiding the spaces of the quotations and showing them again

What is hidden is told by position, from the pairs of quotes of the whole query, and so are the
spans and the words that they belong to.

A span that is shown again may find its hidden text in front of its own place, so that the spaces
come back in a wrong one. It never finds it behind: what stands behind its place is left alone, and
so every later span is still there when its turn comes.

* `Reads.protectFrom_eq_map`: the hidden text, by position.
* `Reads.spans_eq_map_ofPair`: the spans, by position.
* `Reads.restoresAll`: each span in turn finds its hidden text in its word.
* `protect_isRestorable`: what hiding and restoring do to every query.
-/

namespace SearchFilter

namespace Text

/-- A text has one piece more than it has marks. -/
theorem length_pieces (mark : Char) (text : Text) :
    (pieces mark text).length = text.count mark + 1 := by
  induction text with
  | nil => rfl
  | cons c text ih =>
    by_cases hc : c = mark
    · rw [pieces, if_pos hc, List.length_cons, ih, hc, List.count_cons_self]
    · obtain ⟨piece, more, hsplit⟩ := List.exists_cons_of_ne_nil (pieces_ne_nil mark text)
      rw [hsplit, List.length_cons] at ih
      rw [pieces, if_neg hc, hsplit, List.length_cons, ih, List.count_cons_of_ne hc]

/-- Exchanging a pattern for a text of its length keeps the length. -/
theorem length_replaceFirst {pattern replacement : Text}
    (h : replacement.length = pattern.length) (text : Text) :
    (replaceFirst pattern replacement text).length = text.length := by
  unfold replaceFirst
  split
  · next before after hcut =>
    rw [cutAt?_eq_some hcut]
    simp only [List.length_append, h]
  · rfl

/-- A pattern that stands in a text is exchanged there or in front: what stands behind it is left
alone. -/
theorem exists_replaceFirst_append (pattern replacement front back : Text) :
    ∃ front', replaceFirst pattern replacement (front ++ pattern ++ back) = front' ++ back := by
  cases hcut : cutAt? pattern (front ++ pattern) with
  | none => exact absurd (List.suffix_append front pattern).isInfix (cutAt?_eq_none_iff.1 hcut)
  | some cut =>
    obtain ⟨before, after⟩ := cut
    refine ⟨before ++ replacement ++ after, ?_⟩
    rw [replaceFirst_of_cutAt? (cutAt?_append hcut back), List.append_assoc _ after]

/-- A stretch of a text is found between its two positions. -/
theorem extract_append_append (front stretch back : Text) :
    (front ++ stretch ++ back).extract front.length (front.length + stretch.length) = stretch := by
  rw [List.extract_eq_take_drop, List.append_assoc, List.drop_left, Nat.add_sub_cancel_left,
    List.take_left]

end Text

/-- The span of a pair of quotes, given the query and the query with hidden spaces. The spaces that
are left in front of it count the words in front of its own. -/
def Span.ofPair (query substituted : Text) (pair : Nat × Nat) : Span :=
  ⟨(substituted.take pair.1).count ' ', query.extract pair.1 (pair.2 + 1),
    substituted.extract pair.1 (pair.2 + 1)⟩

namespace Query

open SearchFilter.Span (hideSpaces)

variable {query : Text} {words : List (List Part)}

theorem length_quotation (inner : Text) : ('"' :: inner ++ ['"']).length = inner.length + 2 := by
  simp

/-! ### The hidden text by position -/

/-- The character that stands for one of a query at its position: the placeholder for a space that
does not separate, and otherwise the character itself. -/
def hiddenChar (pairs : List (Nat × Nat)) (entry : Char × Nat) : Char :=
  if entry.1 = ' ' ∧ isSeparating pairs entry = false then placeholder else entry.1

theorem hiddenChar_of_ne {c : Char} (hc : c ≠ ' ') (pairs : List (Nat × Nat)) (position : Nat) :
    hiddenChar pairs (c, position) = c := if_neg fun h => hc h.1

theorem hiddenChar_ne_iff (pairs : List (Nat × Nat)) (c : Char) (position : Nat) :
    hiddenChar pairs (c, position) ≠ c ↔ c = ' ' ∧ isEnclosed pairs position = true := by
  have hspace : c = ' ' → (isSeparating pairs (c, position) = false ↔
      isEnclosed pairs position = true) := by
    rintro rfl
    simp [isSeparating]
  rw [← and_congr_right hspace, hiddenChar]
  split
  · next h =>
    refine iff_of_true (fun heq : placeholder = c => ?_) h
    exact absurd (heq.trans h.1) (by decide)
  · next h => exact iff_of_false (not_not.2 rfl) h

theorem hiddenChar_eq_placeholder {pairs : List (Nat × Nat)} {entry : Char × Nat}
    (h : hiddenChar pairs entry ≠ entry.1) : hiddenChar pairs entry = placeholder := by
  rw [hiddenChar] at h ⊢
  split at h
  · next hhidden => exact if_pos hhidden
  · exact absurd rfl h

/-- In a quotation every space is hidden. -/
theorem map_hiddenChar_quotation (inner : Text) (start : Nat) (pairs : List (Nat × Nat)) :
    (('"' :: inner ++ ['"']).zipIdx start).map
        (hiddenChar ((start, start + 1 + inner.length) :: pairs)) =
      hideSpaces ('"' :: inner ++ ['"']) := by
  have hentry : ∀ entry ∈ ('"' :: inner ++ ['"']).zipIdx start,
      hiddenChar ((start, start + 1 + inner.length) :: pairs) entry =
        if entry.1 = ' ' then placeholder else entry.1 := by
    intro entry hmem
    simp only [hiddenChar, isSeparating_of_mem_quotation pairs hmem, and_true]
  rw [List.map_congr_left hentry, ← Function.comp_def (fun c => if c = ' ' then placeholder else c),
    ← List.map_map, List.zipIdx_map_fst, hideSpaces]

/-- Hiding by the scan is hiding by position, from whatever position and word the query is counted.
The induction is on the reading; in each case the pairs of the rest are those of the whole but for
the quotation in front. -/
theorem Reads.protectFrom_eq_map (h : Reads query words) (k start : Nat) :
    (Span.protectFrom k none query).1 =
      (query.zipIdx start).map (hiddenChar (quotePairs start query)) := by
  induction h generalizing k start with
  | nil => rfl
  | @space query words _ ih =>
    have hfirst : hiddenChar (quotePairs (start + 1) query) (' ', start) = ' ' := by
      rw [hiddenChar, isSeparating, isEnclosed_of_le (Nat.le_succ start)]
      rfl
    rw [Span.protectFrom, if_neg (by decide), if_pos rfl, quotePairs_cons_of_ne (by decide),
      List.zipIdx_cons, List.map_cons, hfirst, ← ih (k + 1)]
  | bare hc hq _ ih =>
    rw [Span.protectFrom_bare hc hq, quotePairs_bare hq, List.zipIdx_cons, List.map_cons,
      hiddenChar_of_ne hc, ← ih k]
  | @quotation inner query word words hi _ ih =>
    have hlength : start + ('"' :: inner ++ ['"']).length = start + 2 + inner.length := by
      rw [length_quotation]
      omega
    -- the pair in front encloses nothing behind it
    have hbehind : ∀ entry ∈ query.zipIdx (start + 2 + inner.length),
        hiddenChar ((start, start + 1 + inner.length) :: quotePairs (start + 2 + inner.length)
          query) entry = hiddenChar (quotePairs (start + 2 + inner.length) query) entry := by
      intro entry hentry
      have hle : start + 1 + inner.length ≤ entry.2 := by
        have hge := List.le_snd_of_mem_zipIdx hentry
        omega
      rw [hiddenChar, isSeparating_cons_of_le hle, hiddenChar]
    rw [Span.protectFrom_quotation hi, quotePairs_quotation hi,
      List.append_cons ('"' :: inner) '"' query, List.zipIdx_append, hlength, List.map_append,
      map_hiddenChar_quotation, List.map_congr_left hbehind, ← ih k]

/-- `Hides query substituted`: the texts have one length, and they differ exactly at the spaces of
the query between the two quotes of a pair. There the second text has the placeholder. -/
structure Hides (query substituted : Text) : Prop where
  length_eq : substituted.length = query.length
  ne_iff : ∀ position : Nat, substituted[position]? ≠ query[position]? ↔
    query[position]? = some ' ' ∧ isEnclosed (quotePairs 0 query) position = true
  eq_placeholder : ∀ position : Nat, substituted[position]? ≠ query[position]? →
    substituted[position]? = some placeholder

theorem hides_protect (query : Text) : Hides query (Span.protect query).1 := by
  obtain ⟨_, _, h⟩ := exists_reads query
  have hget (position : Nat) : (Span.protect query).1[position]? =
      query[position]?.map fun c => hiddenChar (quotePairs 0 query) (c, position) := by
    rw [Span.protect, h.protectFrom_eq_map 0 0, List.getElem?_map, List.getElem?_zipIdx,
      Option.map_map, Nat.zero_add]
    rfl
  refine ⟨Span.length_protect query, fun position => ?_, fun position => ?_⟩
  · rw [hget]
    cases query[position]? with
    | none => simp
    | some c => simpa using hiddenChar_ne_iff (quotePairs 0 query) c position
  · rw [hget]
    cases query[position]? with
    | none => exact fun hne => absurd rfl hne
    | some c =>
      intro hne
      have hchar : hiddenChar (quotePairs 0 query) (c, position) ≠ c :=
        fun heq => hne (congrArg some heq)
      exact congrArg some (hiddenChar_eq_placeholder hchar)

/-! ### The spans by position -/

/-- A quotation that stands behind the two fronts makes the span of its pair. -/
theorem ofPair_quotation {front front' : Text} (hlength : front'.length = front.length)
    (inner back back' : Text) :
    Span.ofPair (front ++ ('"' :: inner ++ ['"']) ++ back)
        (front' ++ hideSpaces ('"' :: inner ++ ['"']) ++ back')
        (front.length, front.length + 1 + inner.length) =
      .ofInner (front'.count ' ') inner := by
  have hstop : front.length + 1 + inner.length + 1 =
      front.length + ('"' :: inner ++ ['"']).length := by
    rw [length_quotation]
    omega
  have hstop' : front.length + 1 + inner.length + 1 =
      front'.length + (hideSpaces ('"' :: inner ++ ['"'])).length := by
    rw [Span.length_hideSpaces, hlength, hstop]
  have htake : (front' ++ hideSpaces ('"' :: inner ++ ['"']) ++ back').take front.length =
      front' := by
    rw [List.append_assoc, List.take_left' hlength]
  rw [Span.ofPair, Span.ofInner, Span.mk.injEq]
  refine ⟨?_, ?_, ?_⟩
  · rw [htake]
  · rw [hstop, Text.extract_append_append]
  · rw [hstop', ← hlength, Text.extract_append_append]

/-- The spans of the scan are those of the pairs, in order. Two fronts of one length stand before
the rest that is scanned, one in the query and one in the text with hidden spaces, and the spaces of
the second one count the words up to the scan. -/
theorem Reads.spans_eq_map_ofPair (h : Reads query words) (front front' : Text)
    (hlength : front'.length = front.length) :
    (Span.protectFrom (front'.count ' ') none query).2 =
      (quotePairs front.length query).map
        (.ofPair (front ++ query)
          (front' ++ (Span.protectFrom (front'.count ' ') none query).1)) := by
  induction h generalizing front front' with
  | nil => rfl
  | @space query words _ ih =>
    have hcount : (front' ++ [' ']).count ' ' = front'.count ' ' + 1 := by simp
    have hih := ih (front ++ [' ']) (front' ++ [' ']) (by simp [hlength])
    rw [hcount, List.length_append, List.length_singleton] at hih
    rw [Span.protectFrom, if_neg (by decide), if_pos rfl, quotePairs_cons_of_ne (by decide),
      List.append_cons front, List.append_cons front']
    exact hih
  | @bare c query word words hc hq _ ih =>
    have hcount : (front' ++ [c]).count ' ' = front'.count ' ' := by
      rw [List.count_append, List.count_cons_of_ne hc, List.count_nil, Nat.add_zero]
    have hih := ih (front ++ [c]) (front' ++ [c]) (by simp [hlength])
    rw [hcount, List.length_append, List.length_singleton] at hih
    rw [Span.protectFrom_bare hc hq, quotePairs_bare hq, List.append_cons front,
      List.append_cons front']
    exact hih
  | @quotation inner query word words hi _ ih =>
    -- all spaces of the quotation are hidden, so that no word ends in it
    have hcount : (front' ++ hideSpaces ('"' :: inner ++ ['"'])).count ' ' = front'.count ' ' := by
      rw [List.count_append, List.count_eq_zero_of_not_mem (Span.space_not_mem_hideSpaces _),
        Nat.add_zero]
    have hstart : (front ++ ('"' :: inner ++ ['"'])).length = front.length + 2 + inner.length := by
      rw [List.length_append, length_quotation]
      omega
    have hih := ih (front ++ ('"' :: inner ++ ['"']))
      (front' ++ hideSpaces ('"' :: inner ++ ['"'])) (by simp [hlength])
    rw [hcount, hstart] at hih
    rw [Span.protectFrom_quotation hi, quotePairs_quotation hi,
      List.append_cons ('"' :: inner) '"' query, ← List.append_assoc front,
      ← List.append_assoc front', List.map_cons, ofPair_quotation hlength, ← hih]

/-- A span of the pairs belongs to a word that is there. -/
theorem wordIndex_ofPair_lt (query substituted : Text) (pair : Nat × Nat) :
    (Span.ofPair query substituted pair).wordIndex < (Text.pieces ' ' substituted).length := by
  rw [Text.length_pieces, Nat.lt_succ_iff]
  exact (List.take_sublist _ _).count_le ' '

/-! ### Restoring one by one -/

/-- `Restores words span`: the word of the span is there and has the hidden text in it, and showing
the spaces again leaves every word as long as it was. So no word becomes empty by it, and none that
was empty becomes anything else. -/
structure Restores (words : List Text) (span : Span) : Prop where
  exists_word : ∃ word, words[span.wordIndex]? = some word ∧ Text.occursIn span.hidden word = true
  lengths_eq : (restore words span).map List.length = words.map List.length
  isEmpty_eq : (restore words span).map List.isEmpty = words.map List.isEmpty

/-- Texts of the same lengths are empty at the same places. -/
theorem map_isEmpty_of_map_length {texts texts' : List Text}
    (h : texts.map List.length = texts'.map List.length) :
    texts.map List.isEmpty = texts'.map List.isEmpty := by
  have hlengths (texts : List Text) :
      texts.map List.isEmpty = (texts.map List.length).map (· == 0) := by
    rw [List.map_map]
    exact List.map_congr_left fun text _ => by cases text <;> rfl
  rw [hlengths, hlengths, h]

theorem map_length_restore {span : Span} (h : span.text.length = span.hidden.length)
    (words : List Text) : (restore words span).map List.length = words.map List.length := by
  refine List.ext_getElem? fun k => ?_
  rw [restore, List.getElem?_map, List.getElem?_map, List.getElem?_modify, Option.map_eq_map,
    Option.map_map]
  refine Option.map_congr fun word _ => ?_
  show (if span.wordIndex = k then Text.replaceFirst span.hidden span.text word else word).length =
    word.length
  split
  · exact Text.length_replaceFirst h word
  · rfl

/-- A span whose hidden text stands in its word is restored. -/
theorem restores_ofInner {words : List Text} {k : Nat} {word inner : Text}
    (hword : words[k]? = some word) (hoccurs : hideSpaces ('"' :: inner ++ ['"']) <:+: word) :
    Restores words (.ofInner k inner) := by
  have hlengths : (restore words (.ofInner k inner)).map List.length = words.map List.length :=
    map_length_restore (Span.length_hideSpaces _).symm words
  exact ⟨⟨word, hword, Text.occursIn_iff.2 hoccurs⟩, hlengths, map_isEmpty_of_map_length hlengths⟩

/-- Each of the spans in turn is restored in what the ones before it have left. -/
def RestoresAll : List Text → List Span → Prop
  | _, [] => True
  | words, span :: spans => Restores words span ∧ RestoresAll (restore words span) spans

theorem restoresAll_append {words : List Text} {spans more : List Span} :
    RestoresAll words (spans ++ more) ↔
      RestoresAll words spans ∧ RestoresAll (spans.foldl restore words) more := by
  induction spans generalizing words with
  | nil => exact (true_and _).to_iff.symm
  | cons span spans ih =>
    rw [List.cons_append, RestoresAll, ih, RestoresAll, and_assoc, List.foldl_cons]

theorem RestoresAll.map_length_foldl {words : List Text} {spans : List Span}
    (h : RestoresAll words spans) :
    (spans.foldl restore words).map List.length = words.map List.length := by
  induction spans generalizing words with
  | nil => rfl
  | cons span spans ih => rw [List.foldl_cons, ih h.2, h.1.lengths_eq]

/-- The spans of a word are restored, whatever the ones before have made of the text up to the first
of them. The induction is on the word; what stands behind a span is still hidden as it was. -/
theorem restoresAll_spans (word : List Part) (front back : List Text) (text : Text) :
    RestoresAll (front ++ (text ++ hideSpaces (wordText word)) :: back)
      (word.filterMap (Part.span? front.length)) := by
  induction word generalizing text with
  | nil => trivial
  | cons part word ih =>
    rw [wordText_cons, Span.hideSpaces_append, ← List.append_assoc]
    cases part with
    | bare c => exact ih _
    | quotation inner =>
      have hspans : (Part.quotation inner :: word).filterMap (Part.span? front.length) =
        .ofInner front.length inner :: word.filterMap (Part.span? front.length) := rfl
      -- the text through this quotation may come out in any way, but the rest of the word stays
      obtain ⟨text', htext'⟩ := Text.exists_replaceFirst_append
        (hideSpaces ('"' :: inner ++ ['"'])) ('"' :: inner ++ ['"']) text
        (hideSpaces (wordText word))
      have hword (text : Text) : (front ++ text :: back)[front.length]? = some text := by simp
      rw [hspans, RestoresAll, restore_ofInner, Part.restore, Part.text, htext']
      refine ⟨restores_ofInner (hword _) ?_, ih text'⟩
      exact ⟨text, hideSpaces (wordText word), rfl⟩

theorem restoresAll_spansFrom (words : List (List Part)) (front : List Text) :
    RestoresAll (front ++ words.map fun word => hideSpaces (wordText word))
      (spansFrom front.length words) := by
  induction words generalizing front with
  | nil => trivial
  | cons word words ih =>
    have hlength : front.length + 1 = (front ++ [restored word]).length := by simp
    rw [spansFrom, restoresAll_append, List.map_cons]
    refine ⟨restoresAll_spans word front _ [], ?_⟩
    rw [foldl_restore_spans, ← restored, hlength, List.append_cons]
    exact ih _

/-- Every span of a query is restored when its turn comes. -/
theorem Reads.restoresAll (h : Reads query words) :
    RestoresAll (Text.pieces ' ' (Span.protect query).1) (Span.protect query).2 := by
  rw [Span.protect, h.pieces_protectFrom, h.spans_protectFrom]
  exact restoresAll_spansFrom words []

/-- **Hiding and showing.** The spaces between the quotes of a pair are hidden, and nothing else is
changed. The spans are those of the pairs, in order; each belongs to a word that is there, counted
by the spaces that are left in front of it. When its turn comes each span finds its hidden text in
its word, and no word changes its length. -/
theorem protect_isRestorable (query : Text) :
    Hides query (Span.protect query).1 ∧
    (Span.protect query).2 =
      (quotePairs 0 query).map (.ofPair query (Span.protect query).1) ∧
    (∀ span ∈ (Span.protect query).2,
      span.wordIndex < (Text.pieces ' ' (Span.protect query).1).length) ∧
    (∀ done span more, (Span.protect query).2 = done ++ span :: more →
      Restores (done.foldl restore (Text.pieces ' ' (Span.protect query).1)) span) ∧
    (Query.words query).map List.length =
      (Text.pieces ' ' (Span.protect query).1).map List.length := by
  obtain ⟨_, _, h⟩ := exists_reads query
  have hspans : (Span.protect query).2 =
      (quotePairs 0 query).map (.ofPair query (Span.protect query).1) :=
    h.spans_eq_map_ofPair [] [] rfl
  refine ⟨hides_protect query, hspans, ?_, ?_, h.restoresAll.map_length_foldl⟩
  · intro span hspan
    rw [hspans] at hspan
    obtain ⟨pair, _, rfl⟩ := List.mem_map.1 hspan
    exact wordIndex_ofPair_lt _ _ pair
  · intro done span more hdone
    -- the run through all spans is cut at the one in question
    have hall := h.restoresAll
    rw [hdone, restoresAll_append, RestoresAll] at hall
    exact hall.2.1

/-- The last two quotations are each shown at the place of the one in front, and still the last one
finds its hidden text. -/
theorem protect_isRestorable_misplaced :
    (Span.protect "\"\x1f\"\" \"\" \"".toList).2 =
      [.ofInner 0 [placeholder], .ofInner 0 [' ']] ++ [.ofInner 0 [' ']] ∧
    Restores ([.ofInner 0 [placeholder], .ofInner 0 [' ']].foldl restore
      (Text.pieces ' ' (Span.protect "\"\x1f\"\" \"\" \"".toList).1)) (.ofInner 0 [' ']) ∧
    Query.words "\"\x1f\"\" \"\" \"".toList = ["\" \"\" \"\"\x1f\"".toList] :=
  ⟨by decide, (protect_isRestorable _).2.2.2.1 _ _ [] (by decide), by decide⟩

end Query

end SearchFilter
