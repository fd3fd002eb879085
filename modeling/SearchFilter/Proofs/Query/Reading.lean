import Mathlib.Data.List.Basic
import SearchFilter.Query.Token

/-!
# Readings of a query

A query is read as words, and each word as parts: characters that stand by themselves and closed
quotations. The reading is a derivation (`Reads`), so that a fact about a query is an induction with
one case for each way in which a query can begin.

* `exists_reads`: every query has a reading.
* `Reads.pieces_protectFrom`: the pieces of a query with the spaces of its quotations hidden.
* `Reads.spans_protectFrom`: the spans that are noted on the way.
-/

namespace SearchFilter

namespace Query

/-! ### Parts and words -/

/-- A part of a word: a character by itself, or a quotation without its two quotes. -/
inductive Part where
  | bare (c : Char)
  | quotation (inner : Text)
  deriving DecidableEq

/-- A part as it stands in the query. -/
def Part.text : Part → Text
  | bare c => [c]
  | quotation inner => '"' :: inner ++ ['"']

/-- A word as it stands in the query. -/
def wordText (word : List Part) : Text := word.flatMap Part.text

@[simp] theorem wordText_cons (part : Part) (word : List Part) :
    wordText (part :: word) = part.text ++ wordText word := rfl

/-- `Reads query words`: cut at its separating spaces, the query is these words. A quote
opens a quotation exactly if another quote follows it, so a quote that stands by itself is
the last one of the query. -/
inductive Reads : Text → List (List Part) → Prop where
  | nil : Reads [] [[]]
  | space {query : Text} {words : List (List Part)} (h : Reads query words) :
    Reads (' ' :: query) ([] :: words)
  | bare {c : Char} {query : Text} {word : List Part} {words : List (List Part)}
    (hc : c ≠ ' ') (hq : c = '"' → '"' ∉ query) (h : Reads query (word :: words)) :
    Reads (c :: query) ((.bare c :: word) :: words)
  | quotation {inner query : Text} {word : List Part} {words : List (List Part)}
    (hi : '"' ∉ inner) (h : Reads query (word :: words)) :
    Reads ('"' :: inner ++ '"' :: query) ((.quotation inner :: word) :: words)

/-- Every query has a reading. -/
theorem exists_reads (query : Text) : ∃ word words, Reads query (word :: words) := by
  -- a quotation is taken in one step, so the induction is on the length
  suffices h : ∀ n (query : Text), query.length = n → ∃ word words, Reads query (word :: words)
    from h _ query rfl
  intro n
  induction n using Nat.strongRecOn with
  | _ n ih =>
  intro query hn
  cases query with
  | nil => exact ⟨[], [], .nil⟩
  | cons c text =>
    rw [List.length_cons] at hn
    by_cases hc : c = ' '
    · obtain ⟨word, words, h⟩ := ih text.length (by omega) text rfl
      rw [hc]
      exact ⟨[], word :: words, .space h⟩
    · by_cases hq : c = '"' → '"' ∉ text
      · obtain ⟨word, words, h⟩ := ih text.length (by omega) text rfl
        exact ⟨.bare c :: word, words, .bare hc hq h⟩
      · rw [Classical.not_imp, not_not] at hq
        obtain ⟨rfl, hmem⟩ := hq
        obtain ⟨inner, rest, rfl, hi⟩ := List.eq_append_cons_of_mem hmem
        rw [List.length_append, List.length_cons] at hn
        obtain ⟨word, words, h⟩ := ih rest.length (by omega) rest rfl
        exact ⟨.quotation inner :: word, words, .quotation hi h⟩

/-- The words hold no character that the query does not hold. -/
theorem Reads.mem_of_mem_wordText {query : Text} {words : List (List Part)}
    (h : Reads query words) {word : List Part} (hw : word ∈ words) {c : Char}
    (hc : c ∈ wordText word) : c ∈ query := by
  induction h generalizing word with
  | nil =>
    rw [List.mem_singleton] at hw
    subst hw
    exact hc
  | space h ih =>
    rcases List.mem_cons.1 hw with rfl | hw
    · exact absurd hc List.not_mem_nil
    · exact List.mem_cons_of_mem _ (ih hw hc)
  | bare _ _ h ih =>
    rcases List.mem_cons.1 hw with rfl | hw
    · rw [wordText_cons, Part.text, List.mem_append, List.mem_singleton] at hc
      rcases hc with rfl | hc
      · exact List.mem_cons_self
      · exact List.mem_cons_of_mem _ (ih List.mem_cons_self hc)
    · exact List.mem_cons_of_mem _ (ih (List.mem_cons_of_mem _ hw) hc)
  | @quotation inner query word' words _ h ih =>
    -- the quotation is split off as one piece, since its end is a quote too
    have hquery : '"' :: inner ++ '"' :: query = ('"' :: inner ++ ['"']) ++ query := by simp
    rw [hquery, List.mem_append]
    rcases List.mem_cons.1 hw with rfl | hw
    · rw [wordText_cons, Part.text, List.mem_append] at hc
      exact hc.imp_right (ih List.mem_cons_self)
    · exact Or.inr (ih (List.mem_cons_of_mem _ hw) hc)

/-! ### Words by themselves -/

/-- What a word of a reading looks like without the rest of the query. -/
inductive IsWord : List Part → Prop where
  | nil : IsWord []
  | bare {c : Char} {word : List Part} (hc : c ≠ ' ') (hq : c = '"' → '"' ∉ wordText word)
    (h : IsWord word) : IsWord (.bare c :: word)
  | quotation {inner : Text} {word : List Part} (hi : '"' ∉ inner) (h : IsWord word) :
    IsWord (.quotation inner :: word)

theorem Reads.isWord {query : Text} {words : List (List Part)} (h : Reads query words) :
    ∀ word ∈ words, IsWord word := by
  induction h with
  | nil => exact List.forall_mem_singleton.2 .nil
  | space _ ih => exact List.forall_mem_cons.2 ⟨.nil, ih⟩
  | bare hc hq h ih =>
    obtain ⟨hword, hwords⟩ := List.forall_mem_cons.1 ih
    have hq' := fun hcq hmem => hq hcq (h.mem_of_mem_wordText List.mem_cons_self hmem)
    exact List.forall_mem_cons.2 ⟨.bare hc hq' hword, hwords⟩
  | quotation hi _ ih =>
    obtain ⟨hword, hwords⟩ := List.forall_mem_cons.1 ih
    exact List.forall_mem_cons.2 ⟨.quotation hi hword, hwords⟩

end Query

namespace Text

/-- A text without the character in it stays in front of the first piece. -/
theorem pieces_append_of_not_mem {mark : Char} {front : Text} (h : mark ∉ front) (back : Text) :
    pieces mark (front ++ back) = (pieces mark back).modifyHead (front ++ ·) := by
  obtain ⟨piece, more, hback⟩ := List.exists_cons_of_ne_nil (pieces_ne_nil mark back)
  rw [hback, List.modifyHead_cons]
  induction front with
  | nil => exact hback
  | cons c front ih =>
    rw [List.mem_cons, not_or] at h
    rw [List.cons_append, pieces, if_neg (Ne.symm h.1), ih h.2]
    rfl

end Text

/-! ### Hidden spaces -/

namespace Span

theorem hideSpaces_append (front back : Text) :
    hideSpaces (front ++ back) = hideSpaces front ++ hideSpaces back := List.map_append

theorem hideSpaces_cons_of_ne {c : Char} (hc : c ≠ ' ') (text : Text) :
    hideSpaces (c :: text) = c :: hideSpaces text := by
  rw [hideSpaces, List.map_cons, if_neg hc, hideSpaces]

/-- No space is left once the spaces are hidden. -/
theorem space_not_mem_hideSpaces (text : Text) : ' ' ∉ hideSpaces text := by
  intro h
  obtain ⟨c, _, hc⟩ := List.mem_map.1 h
  split at hc
  · exact absurd hc (by decide)
  · next hne => exact hne hc

theorem hideSpaces_of_not_mem {text : Text} (h : ' ' ∉ text) : hideSpaces text = text := by
  refine (List.map_congr_left fun c hc => ?_).trans (List.map_id text)
  have hne : c ≠ ' ' := fun heq => h (heq ▸ hc)
  rw [if_neg hne, id]

theorem placeholder_mem_hideSpaces {text : Text} (h : ' ' ∈ text) :
    placeholder ∈ hideSpaces text :=
  List.mem_map.2 ⟨' ', h, if_pos rfl⟩

theorem quote_mem_hideSpaces {text : Text} : '"' ∈ hideSpaces text ↔ '"' ∈ text := by
  rw [hideSpaces, List.mem_map]
  constructor
  · rintro ⟨c, hc, heq⟩
    split at heq
    · exact absurd heq (by decide)
    · rwa [← heq]
  · intro h
    exact ⟨'"', h, if_neg (by decide)⟩

/-! ### Hiding in a reading -/

/-- Without a quote in it the rest of a query is left as it is. -/
theorem protectFrom_of_not_mem {text : Text} (h : '"' ∉ text) (k : Nat) :
    protectFrom k none text = (text, []) := by
  induction text generalizing k with
  | nil => rfl
  | cons c text ih =>
    rw [List.mem_cons, not_or] at h
    rw [protectFrom, if_neg (Ne.symm h.1), ih h.2]

theorem protectFrom_opened_of_not_mem {text : Text} (h : '"' ∉ text) (k : Nat) (opened : Text) :
    protectFrom k (some opened) text = ('"' :: opened.reverse ++ text, []) := by
  induction text generalizing opened with
  | nil => rw [protectFrom, List.append_nil]
  | cons c text ih =>
    rw [List.mem_cons, not_or] at h
    rw [protectFrom, if_neg (Ne.symm h.1), ih h.2, List.reverse_cons]
    simp

/-- A character that opens no quotation is passed over. -/
theorem protectFrom_bare {c : Char} {text : Text} (hc : c ≠ ' ') (hq : c = '"' → '"' ∉ text)
    (k : Nat) :
    protectFrom k none (c :: text) =
      (c :: (protectFrom k none text).1, (protectFrom k none text).2) := by
  by_cases h : c = '"'
  · rw [protectFrom, if_pos h, protectFrom_opened_of_not_mem (hq h),
      protectFrom_of_not_mem (hq h), h]
    rfl
  · rw [protectFrom, if_neg h, if_neg hc]

/-- The span of a quotation that belongs to the word `k`. -/
def ofInner (k : Nat) (inner : Text) : Span :=
  ⟨k, '"' :: inner ++ ['"'], hideSpaces ('"' :: inner ++ ['"'])⟩

theorem protectFrom_opened {inner : Text} (hi : '"' ∉ inner) (k : Nat) (opened text : Text) :
    protectFrom k (some opened) (inner ++ '"' :: text) =
      (hideSpaces ('"' :: (opened.reverse ++ inner) ++ ['"']) ++ (protectFrom k none text).1,
        ofInner k (opened.reverse ++ inner) :: (protectFrom k none text).2) := by
  induction inner generalizing opened with
  | nil => rw [List.nil_append, List.append_nil, protectFrom, if_pos rfl, ofInner]
  | cons c inner ih =>
    rw [List.mem_cons, not_or] at hi
    have happend : opened.reverse ++ c :: inner = (c :: opened).reverse ++ inner := by simp
    rw [List.cons_append, protectFrom, if_neg (Ne.symm hi.1), ih hi.2, happend]

/-- A closed quotation is hidden as a whole and makes one span. -/
theorem protectFrom_quotation {inner : Text} (hi : '"' ∉ inner) (k : Nat) (text : Text) :
    protectFrom k none ('"' :: inner ++ '"' :: text) =
      (hideSpaces ('"' :: inner ++ ['"']) ++ (protectFrom k none text).1,
        ofInner k inner :: (protectFrom k none text).2) := by
  rw [List.cons_append, protectFrom, if_pos rfl, protectFrom_opened hi, List.reverse_nil,
    List.nil_append]

end Span

namespace Query

/-- The span of a part, for a part of the word `k`. -/
def Part.span? (k : Nat) : Part → Option Span
  | bare _ => none
  | quotation inner => some (.ofInner k inner)

/-- The spans of words that are numbered from `k`. -/
def spansFrom (k : Nat) : List (List Part) → List Span
  | [] => []
  | word :: words => word.filterMap (Part.span? k) ++ spansFrom (k + 1) words

/-- Cut at its spaces, a query with hidden spaces is its words with hidden spaces. -/
theorem Reads.pieces_protectFrom {query : Text} {words : List (List Part)}
    (h : Reads query words) (k : Nat) :
    Text.pieces ' ' (Span.protectFrom k none query).1 =
      words.map fun word => Span.hideSpaces (wordText word) := by
  induction h generalizing k with
  | nil => rfl
  | space h ih =>
    rw [Span.protectFrom, if_neg (by decide), if_pos rfl, Text.pieces, if_pos rfl, ih (k + 1)]
    rfl
  | bare hc hq h ih =>
    rw [Span.protectFrom_bare hc hq, Text.pieces, if_neg hc, ih k, List.map_cons, List.map_cons,
      wordText_cons, Part.text, List.singleton_append, Span.hideSpaces_cons_of_ne hc]
  | quotation hi h ih =>
    rw [Span.protectFrom_quotation hi,
      Text.pieces_append_of_not_mem (Span.space_not_mem_hideSpaces _), ih k, List.map_cons,
      List.map_cons, List.modifyHead_cons, wordText_cons, Part.text, ← Span.hideSpaces_append]

/-- The spans of a query are those of its words, in order. -/
theorem Reads.spans_protectFrom {query : Text} {words : List (List Part)}
    (h : Reads query words) (k : Nat) :
    (Span.protectFrom k none query).2 = spansFrom k words := by
  induction h generalizing k with
  | nil => rfl
  | space h ih =>
    rw [Span.protectFrom, if_neg (by decide), if_pos rfl, ih (k + 1)]
    rfl
  | bare hc hq h ih =>
    rw [Span.protectFrom_bare hc hq, ih k]
    rfl
  | quotation hi h ih =>
    rw [Span.protectFrom_quotation hi, ih k]
    rfl

end Query

end SearchFilter
