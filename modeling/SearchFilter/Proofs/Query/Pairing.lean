import Mathlib.Data.List.Basic
import SearchFilter.Proofs.Query.Reading

/-!
# A query cut in one pass

The double quotes of the whole query are paired by position, the first with the second, the third
with the fourth and so on; a space between the two quotes of a pair is a character like any other,
and every other space separates words.

* `Reads.directWords_eq`: the direct cut gives the words of the reading.
* `flatten_directTokens`: together its tokens are the query without the separating spaces.
-/

namespace SearchFilter

namespace Query

/-! ### The direct cut -/

/-- Neighbours in pairs, an odd last one left out. -/
def pairUp : List Nat → List (Nat × Nat)
  | opening :: closing :: more => (opening, closing) :: pairUp more
  | _ => []

/-- The positions of the double quotes of a text that starts at position `start`, in pairs. -/
def quotePairs (start : Nat) (text : Text) : List (Nat × Nat) :=
  pairUp (text.findIdxs (· == '"') start)

/-- Whether a position lies between the two quotes of a pair. -/
def isEnclosed (pairs : List (Nat × Nat)) (position : Nat) : Bool :=
  pairs.any fun (opening, closing) => opening < position && position < closing

/-- Whether a character at a position is a space outside all pairs. -/
def isSeparating (pairs : List (Nat × Nat)) : Char × Nat → Bool
  | (c, position) => c == ' ' && !isEnclosed pairs position

/-- The words of a query, cut at its separating spaces. -/
def directWords (query : Text) : List Text :=
  (query.zipIdx.splitOnP (isSeparating (quotePairs 0 query))).map (·.map Prod.fst)

/-- The tokens of a query, cut at its separating spaces: the words that are not empty. -/
def directTokens (query : Text) : List Text :=
  (directWords query).filter fun word => !word.isEmpty

/-- A query with its separating spaces deleted. -/
def withoutSeparatingSpaces (query : Text) : Text :=
  (query.zipIdx.filter fun entry => !isSeparating (quotePairs 0 query) entry).map Prod.fst

/-! ### Splitting at a predicate -/

theorem splitOnP_congr {α : Type} {p q : α → Bool} {list : List α}
    (h : ∀ a ∈ list, p a = q a) : list.splitOnP p = list.splitOnP q := by
  induction list with
  | nil => rfl
  | cons a list ih =>
    obtain ⟨ha, hlist⟩ := List.forall_mem_cons.1 h
    rw [List.splitOnP_cons_eq_if_modifyHead, List.splitOnP_cons_eq_if_modifyHead, ha, ih hlist]

/-- Elements at which the list is not split stay in front of the first stretch. -/
theorem splitOnP_append_of_forall {α : Type} {p : α → Bool} {front : List α}
    (h : ∀ a ∈ front, p a = false) (back : List α) :
    (front ++ back).splitOnP p = (back.splitOnP p).modifyHead (front ++ ·) := by
  obtain ⟨first, more, hback⟩ := List.exists_cons_of_ne_nil (List.splitOnP_ne_nil p back)
  rw [hback, List.modifyHead_cons]
  induction front with
  | nil => exact hback
  | cons a front ih =>
    obtain ⟨ha, hfront⟩ := List.forall_mem_cons.1 h
    rw [List.cons_append, List.splitOnP_cons_eq_if_modifyHead, ha, ih hfront]
    rfl

/-- Splitting loses nothing but what it splits at. -/
theorem flatten_splitOnP {α : Type} (p : α → Bool) (list : List α) :
    (list.splitOnP p).flatten = list.filter fun a => !p a := by
  induction list with
  | nil => rfl
  | cons a list ih =>
    rw [List.splitOnP_cons_eq_if_modifyHead]
    obtain ⟨first, more, hsplit⟩ := List.exists_cons_of_ne_nil (List.splitOnP_ne_nil p list)
    rw [hsplit] at ih ⊢
    by_cases ha : p a = true
    · rw [if_pos ha, List.flatten_cons, List.nil_append, ih, List.filter_cons_of_neg (by simp [ha])]
    · rw [if_neg ha, List.modifyHead_cons, List.flatten_cons, List.cons_append, ← List.flatten_cons,
        ih, List.filter_cons_of_pos (by simp [ha])]

/-! ### Pairs -/

theorem mem_of_mem_pairUp {positions : List Nat} {pair : Nat × Nat}
    (h : pair ∈ pairUp positions) : pair.1 ∈ positions ∧ pair.2 ∈ positions := by
  induction positions using pairUp.induct with
  | case1 opening closing more ih =>
    rcases List.mem_cons.1 h with rfl | h
    · simp
    · obtain ⟨hopening, hclosing⟩ := ih h
      exact ⟨by simp [hopening], by simp [hclosing]⟩
  | case2 positions hpositions =>
    rw [pairUp] at h
    · exact absurd h List.not_mem_nil
    · exact hpositions

/-- The pairs of a text lie behind its start. -/
theorem isEnclosed_of_le {start position : Nat} {text : Text} (h : position ≤ start) :
    isEnclosed (quotePairs start text) position = false := by
  rw [isEnclosed, List.any_eq_false]
  intro pair hpair
  have hge := List.ge_of_mem_findIdxs _ (mem_of_mem_pairUp hpair).1
  simp only [Bool.and_eq_true, decide_eq_true_eq, not_and]
  omega

theorem quotePairs_cons_of_ne {c : Char} (hc : c ≠ '"') (start : Nat) (text : Text) :
    quotePairs start (c :: text) = quotePairs (start + 1) text := by
  rw [quotePairs, List.findIdxs_cons, if_neg (by simpa using hc), quotePairs]

theorem findIdxs_of_not_mem {text : Text} (h : '"' ∉ text) (start : Nat) :
    text.findIdxs (· == '"') start = [] := by
  rw [List.findIdxs_eq_nil_iff]
  intro c hc
  exact beq_false_of_ne fun heq => h (heq ▸ hc)

/-- A quote that opens no quotation is in no pair. -/
theorem quotePairs_bare {c : Char} {text : Text} (hq : c = '"' → '"' ∉ text) (start : Nat) :
    quotePairs start (c :: text) = quotePairs (start + 1) text := by
  by_cases hc : c = '"'
  · rw [quotePairs, quotePairs, List.findIdxs_cons, findIdxs_of_not_mem (hq hc)]
    split <;> rfl
  · exact quotePairs_cons_of_ne hc start text

/-- A quotation makes the first pair. -/
theorem quotePairs_quotation {inner : Text} (hi : '"' ∉ inner) (start : Nat) (text : Text) :
    quotePairs start ('"' :: inner ++ '"' :: text) =
      (start, start + 1 + inner.length) :: quotePairs (start + 2 + inner.length) text := by
  have hstart : start + 1 + inner.length + 1 = start + 2 + inner.length := by omega
  rw [quotePairs, List.cons_append, List.findIdxs_cons, if_pos (by rfl), List.findIdxs_append,
    findIdxs_of_not_mem hi, List.nil_append, List.findIdxs_cons, if_pos (by rfl), pairUp, hstart,
    quotePairs]

theorem isSeparating_of_ne {c : Char} (hc : c ≠ ' ') (pairs : List (Nat × Nat)) (position : Nat) :
    isSeparating pairs (c, position) = false := by
  rw [isSeparating, beq_false_of_ne hc, Bool.false_and]

/-- Nothing in a quotation separates, for the first pair encloses it. -/
theorem isSeparating_of_mem_quotation {inner : Text} {start : Nat} (pairs : List (Nat × Nat))
    {entry : Char × Nat} (h : entry ∈ ('"' :: inner ++ ['"']).zipIdx start) :
    isSeparating ((start, start + 1 + inner.length) :: pairs) entry = false := by
  obtain ⟨c, position⟩ := entry
  rw [List.zipIdx_append, List.zipIdx_cons, List.mem_append, List.mem_cons] at h
  rcases h with (h | h) | h
  · rw [(Prod.mk.inj h).1]
    exact isSeparating_of_ne (by decide) _ _
  · have hge := List.le_snd_of_mem_zipIdx h
    have hlt := List.snd_lt_add_of_mem_zipIdx h
    have hopening : start < position := by omega
    have hclosing : position < start + 1 + inner.length := by omega
    simp [isSeparating, isEnclosed, hopening, hclosing]
  · rw [List.zipIdx_singleton, List.mem_singleton] at h
    rw [(Prod.mk.inj h).1]
    exact isSeparating_of_ne (by decide) _ _

/-- Behind its second quote a pair encloses nothing. -/
theorem isSeparating_cons_of_le {pair : Nat × Nat} {entry : Char × Nat} (h : pair.2 ≤ entry.2)
    (pairs : List (Nat × Nat)) : isSeparating (pair :: pairs) entry = isSeparating pairs entry := by
  have hclosing : ¬ entry.2 < pair.2 := by omega
  simp [isSeparating, isEnclosed, hclosing]

/-! ### The direct cut of a reading -/

/-- The direct cut gives the words of the reading, from whatever position the query is counted.
The induction is on the reading, and in each case the pairs of the rest are those of the whole
but for the quotation in front. -/
theorem Reads.splitOnP_zipIdx {query : Text} {words : List (List Part)} (h : Reads query words)
    (start : Nat) :
    ((query.zipIdx start).splitOnP (isSeparating (quotePairs start query))).map
        (·.map Prod.fst) =
      words.map wordText := by
  induction h generalizing start with
  | nil => rfl
  | @space query words _ ih =>
    have hseparating : isSeparating (quotePairs (start + 1) query) (' ', start) = true := by
      rw [isSeparating, isEnclosed_of_le (Nat.le_succ start)]
      rfl
    rw [quotePairs_cons_of_ne (by decide), List.zipIdx_cons,
      List.splitOnP_cons_eq_if_modifyHead, if_pos hseparating, List.map_cons, ih (start + 1)]
    rfl
  | @bare c query word words hc hq _ ih =>
    -- the character joins the first stretch of the rest
    have hih := ih (start + 1)
    rw [quotePairs_bare hq, List.zipIdx_cons, List.splitOnP_cons_eq_if_modifyHead,
      isSeparating_of_ne hc]
    obtain ⟨first, more, hsplit⟩ := List.exists_cons_of_ne_nil (List.splitOnP_ne_nil
      (isSeparating (quotePairs (start + 1) query)) (query.zipIdx (start + 1)))
    rw [hsplit, List.map_cons, List.map_cons] at hih
    obtain ⟨hfirst, hmore⟩ := List.cons.inj hih
    rw [hsplit, if_neg Bool.false_ne_true, List.modifyHead_cons, List.map_cons, List.map_cons,
      hmore, List.map_cons, hfirst]
    rfl
  | @quotation inner query word words hi _ ih =>
    have hlength : start + ('"' :: inner ++ ['"']).length = start + 2 + inner.length := by
      simp
      omega
    have hwhole : '"' :: inner ++ '"' :: query = ('"' :: inner ++ ['"']) ++ query := by simp
    -- the pair in front encloses nothing behind it, so the rest is cut as it would be alone
    have hbehind : ∀ entry ∈ query.zipIdx (start + 2 + inner.length),
        isSeparating ((start, start + 1 + inner.length) :: quotePairs (start + 2 + inner.length)
          query) entry = isSeparating (quotePairs (start + 2 + inner.length) query) entry := by
      intro entry hentry
      have hge := List.le_snd_of_mem_zipIdx hentry
      refine isSeparating_cons_of_le ?_ _
      show start + 1 + inner.length ≤ entry.2
      omega
    have hih := ih (start + 2 + inner.length)
    rw [quotePairs_quotation hi, hwhole, List.zipIdx_append, hlength, splitOnP_append_of_forall
      (fun entry hentry => isSeparating_of_mem_quotation _ hentry), splitOnP_congr hbehind]
    obtain ⟨first, more, hsplit⟩ := List.exists_cons_of_ne_nil (List.splitOnP_ne_nil
      (isSeparating (quotePairs (start + 2 + inner.length) query))
      (query.zipIdx (start + 2 + inner.length)))
    rw [hsplit, List.map_cons, List.map_cons] at hih
    obtain ⟨hfirst, hmore⟩ := List.cons.inj hih
    rw [hsplit, List.modifyHead_cons, List.map_cons, List.map_cons, hmore, List.map_append,
      hfirst, List.zipIdx_map_fst]
    rfl

theorem Reads.directWords_eq {query : Text} {words : List (List Part)} (h : Reads query words) :
    directWords query = words.map wordText :=
  h.splitOnP_zipIdx 0

/-- Together the tokens of the direct cut are the query without its separating spaces. -/
theorem flatten_directTokens (query : Text) :
    (directTokens query).flatten = withoutSeparatingSpaces query := by
  rw [directTokens, List.flatten_filter_not_isEmpty, directWords, ← List.map_flatten,
    flatten_splitOnP, withoutSeparatingSpaces]

end Query

end SearchFilter
