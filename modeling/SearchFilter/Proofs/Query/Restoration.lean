import Mathlib.Algebra.Group.Nat.Even
import Mathlib.Algebra.Ring.Parity
import Mathlib.Data.List.Forall2
import SearchFilter.Proofs.Query.Reading
import SearchFilter.Proofs.Text.Occurrence

/-!
# How the spaces of a word come back

Its quotations are restored one after the other, and each at the first place that reads like the
quotation with its spaces hidden. That place is its own exactly if nothing in front of it reads so.

* `Reads.words_eq`: the words of a query are those of its reading, each restored by itself.
* `restored_eq_iff`: a word comes back unchanged exactly if none of its quotations is taken for an
  earlier stretch.
-/

namespace SearchFilter

namespace Query

open SearchFilter.Span (hideSpaces)

/-! ### Word by word -/

/-- A text in which the quotation, if the part is one, has its spaces back. -/
def Part.restore (text : Text) : Part → Text
  | bare _ => text
  | quotation inner =>
    Text.replaceFirst (hideSpaces ('"' :: inner ++ ['"'])) ('"' :: inner ++ ['"']) text

/-- What becomes of a word: its spaces are hidden, and its quotations are restored in order. -/
def restored (word : List Part) : Text := word.foldl Part.restore (hideSpaces (wordText word))

theorem restore_ofInner (front back : List Text) (text inner : Text) :
    restore (front ++ text :: back) (.ofInner front.length inner) =
      front ++ (Part.quotation inner).restore text :: back := by
  have hlt : front.length < (front ++ text :: back).length := by simp
  show (front ++ text :: back).modify front.length
      (fun text => (Part.quotation inner).restore text) =
    front ++ (Part.quotation inner).restore text :: back
  rw [List.modify_eq_take_cons_drop hlt]
  simp

/-- Spans of one word change that word alone. -/
theorem foldl_restore_spans (word : List Part) (front back : List Text) (text : Text) :
    (word.filterMap (Part.span? front.length)).foldl restore (front ++ text :: back) =
      front ++ word.foldl Part.restore text :: back := by
  induction word generalizing text with
  | nil => rfl
  | cons part word ih =>
    cases part with
    | bare c => exact ih text
    | quotation inner =>
      have hspans : (Part.quotation inner :: word).filterMap (Part.span? front.length) =
        .ofInner front.length inner :: word.filterMap (Part.span? front.length) := rfl
      rw [hspans, List.foldl_cons, restore_ofInner, ih, List.foldl_cons]

theorem foldl_restore_spansFrom (words : List (List Part)) (front : List Text) :
    (spansFrom front.length words).foldl restore
        (front ++ words.map fun word => hideSpaces (wordText word)) =
      front ++ words.map restored := by
  induction words generalizing front with
  | nil => rfl
  | cons word words ih =>
    have hlength : front.length + 1 = (front ++ [restored word]).length := by simp
    rw [spansFrom, List.foldl_append, List.map_cons, foldl_restore_spans, hlength,
      List.append_cons, ← restored, ih, List.map_cons, ← List.append_cons]

/-- The words of a query are those of its reading, restored one by one. -/
theorem Reads.words_eq {query : Text} {words : List (List Part)} (h : Reads query words) :
    Query.words query = words.map restored := by
  show (Span.protectFrom 0 none query).2.foldl restore
    (Text.pieces ' ' (Span.protectFrom 0 none query).1) = words.map restored
  rw [h.pieces_protectFrom, h.spans_protectFrom]
  exact foldl_restore_spansFrom words []

/-! ### Quotations of a token -/

/-- Behind `front` the token has the closed quotation `inner`: an even number of quotes
stands before it, and no quote in it. -/
def HasQuotation (token front inner : Text) : Prop :=
  ∃ back, token = front ++ '"' :: inner ++ '"' :: back ∧ Even (front.count '"') ∧ '"' ∉ inner

/-- A token is ambiguous if one of its quotations has a space in it and reads, with its spaces
hidden, like a stretch between two quotes in front of it. The second quote of that stretch
may be the one that opens the quotation. -/
def IsAmbiguous (token : Text) : Prop :=
  ∃ front inner, HasQuotation token front inner ∧ ' ' ∈ inner ∧
    '"' :: hideSpaces inner ++ ['"'] <:+: front ++ ['"']

theorem not_hasQuotation_nil (front inner : Text) : ¬ HasQuotation [] front inner := by
  rintro ⟨back, h, -⟩
  simp at h

/-- A character that opens no quotation stands in front of all quotations. -/
theorem hasQuotation_bare {c : Char} {token : Text} (hq : c = '"' → '"' ∉ token)
    (front inner : Text) :
    HasQuotation (c :: token) front inner ↔
      ∃ front', front = c :: front' ∧ HasQuotation token front' inner := by
  constructor
  · rintro ⟨back, h, heven, hi⟩
    cases front with
    | nil =>
      obtain ⟨rfl, rfl⟩ := List.cons.inj h
      exact absurd (by simp) (hq rfl)
    | cons d front =>
      obtain ⟨rfl, rfl⟩ := List.cons.inj h
      have hc : c ≠ '"' := fun heq => hq heq (by simp)
      rw [List.count_cons_of_ne hc] at heven
      exact ⟨front, rfl, back, rfl, heven, hi⟩
  · rintro ⟨front', rfl, back, rfl, heven, hi⟩
    have hc : c ≠ '"' := fun heq => hq heq (by simp)
    refine ⟨back, rfl, ?_, hi⟩
    rwa [List.count_cons_of_ne hc]

/-- A quotation adds two quotes to those behind it. -/
theorem even_count_quotation {inner : Text} (hi : '"' ∉ inner) (text : Text) :
    Even (('"' :: inner ++ '"' :: text).count '"') ↔ Even (text.count '"') := by
  have hcount : ('"' :: inner ++ '"' :: text).count '"' = text.count '"' + 2 := by
    rw [List.count_append, List.count_cons_self, List.count_cons_self,
      List.count_eq_zero_of_not_mem hi]
    omega
  rw [hcount, Nat.even_add]
  exact iff_true_right even_two

/-- A text that starts with a quotation has that one, and those of the rest. -/
theorem hasQuotation_quotation {first token : Text} (hf : '"' ∉ first) (front inner : Text) :
    HasQuotation ('"' :: first ++ '"' :: token) front inner ↔
      front = [] ∧ inner = first ∨
        ∃ front', front = '"' :: first ++ '"' :: front' ∧ HasQuotation token front' inner := by
  constructor
  · rintro ⟨back, h, heven, hi⟩
    cases front with
    | nil =>
      refine Or.inl ⟨rfl, ?_⟩
      have htail : first ++ '"' :: token = inner ++ '"' :: back := (List.cons.inj h).2
      exact (Text.append_cons_inj_of_not_mem hi hf htail.symm).1
    | cons d front =>
      obtain ⟨rfl, htail⟩ := List.cons.inj h
      -- the front begins with a quote, so the one that closes it is in the front as well
      have hodd : ¬ Even (front.count '"') := by
        rwa [List.count_cons_self, Nat.even_add_one] at heven
      have hmem : '"' ∈ front := by
        by_contra hno
        rw [List.count_eq_zero_of_not_mem hno] at hodd
        exact hodd Even.zero
      obtain ⟨first', front', rfl, hf'⟩ := List.eq_append_cons_of_mem hmem
      have htail' : first ++ '"' :: token =
          first' ++ '"' :: (front' ++ '"' :: inner ++ '"' :: back) := by
        rw [show first ++ '"' :: token = _ from htail]
        simp
      obtain ⟨rfl, rfl⟩ := Text.append_cons_inj_of_not_mem hf hf' htail'
      have heven' : Even (front'.count '"') := (even_count_quotation hf front').1 heven
      exact Or.inr ⟨front', rfl, back, by simp, heven', hi⟩
  · rintro (⟨rfl, rfl⟩ | ⟨front', rfl, back, rfl, heven, hi⟩)
    · exact ⟨token, rfl, Even.zero, hf⟩
    · exact ⟨back, by simp, (even_count_quotation hf front').2 heven, hi⟩

/-! ### One quotation -/

theorem hideSpaces_quotation (inner : Text) :
    hideSpaces ('"' :: inner ++ ['"']) = '"' :: hideSpaces inner ++ ['"'] := by
  rw [Span.hideSpaces_append, Span.hideSpaces_cons_of_ne (by decide)]
  rfl

/-- A quotation that ends inside another one ends at its opening quote. -/
theorem infix_of_infix_opened {front hidden : Text} (hh : '"' ∉ hidden)
    (h : '"' :: hidden ++ ['"'] <:+: front ++ '"' :: hidden) :
    '"' :: hidden ++ ['"'] <:+: front ++ ['"'] := by
  obtain ⟨before, after, heq⟩ := h
  rw [List.append_assoc, List.append_assoc, ← List.append_assoc] at heq
  rcases List.append_eq_append_iff.1 heq with ⟨stretch, hfront, hback⟩ | ⟨stretch, hbefore, hback⟩
  · -- the occurrence ends in front of the opening quote
    cases stretch with
    | nil =>
      rw [hfront, List.append_nil, List.append_assoc]
      exact List.infix_append_right
    | cons d stretch =>
      obtain ⟨rfl, -⟩ := List.cons.inj hback
      refine ⟨before, stretch ++ ['"'], ?_⟩
      rw [hfront]
      simp
  · cases stretch with
    | nil =>
      rw [List.append_nil] at hbefore
      rw [← hbefore, List.append_assoc]
      exact List.infix_append_right
    | cons d stretch =>
      -- its last quote would stand in the quotation
      have hmem : '"' ∈ hidden := by
        rw [(List.cons.inj hback).2]
        simp
      exact absurd hmem hh

/-- A quotation is restored at its own place, if nothing in front of it reads like it. -/
theorem restore_own {front inner : Text} (hi : '"' ∉ inner)
    (h : ¬ '"' :: hideSpaces inner ++ ['"'] <:+: front ++ ['"']) (back : Text) :
    (Part.quotation inner).restore (front ++ hideSpaces ('"' :: inner ++ ['"']) ++ back) =
      front ++ ('"' :: inner ++ ['"']) ++ back := by
  have hlast : ('"' :: hideSpaces inner ++ ['"']).dropLast = '"' :: hideSpaces inner :=
    List.dropLast_concat
  have hfirst : ¬ '"' :: hideSpaces inner ++ ['"'] <:+:
      front ++ ('"' :: hideSpaces inner ++ ['"']).dropLast := by
    rw [hlast]
    exact fun hinfix => h (infix_of_infix_opened (mt Span.quote_mem_hideSpaces.1 hi) hinfix)
  rw [Part.restore, hideSpaces_quotation]
  exact Text.replaceFirst_of_cutAt? (Text.cutAt?_append_append (by simp) hfirst back) _

theorem restore_of_not_mem {inner : Text} (h : ' ' ∉ inner) (text : Text) :
    (Part.quotation inner).restore text = text := by
  have hq : ' ' ∉ '"' :: inner ++ ['"'] := by simp [h]
  rw [Part.restore, Span.hideSpaces_of_not_mem hq, Text.replaceFirst_self]

/-! ### Spaces stay

Restoring a quotation turns placeholders into spaces and never a space into something else.
A space that was put in a wrong place is therefore still there at the end. -/

/-- Wherever the first text has a space, the second one has it too. -/
def SpacesStay : Text → Text → Prop := List.Forall₂ fun c d => c = ' ' → d = ' '

theorem SpacesStay.refl (text : Text) : SpacesStay text text :=
  List.forall₂_same.2 fun _ _ h => h

theorem SpacesStay.trans {first second third : Text} (h : SpacesStay first second)
    (h' : SpacesStay second third) : SpacesStay first third := by
  induction h generalizing third with
  | nil => exact h'
  | cons hcd _ ih =>
    cases h' with
    | cons hde htail => exact .cons (fun hc => hde (hcd hc)) (ih htail)

theorem SpacesStay.append {front front' back back' : Text} (h : SpacesStay front front')
    (h' : SpacesStay back back') : SpacesStay (front ++ back) (front' ++ back') :=
  List.rel_append h h'

/-- Two texts that agree in length up to a point are compared up to there and from there. -/
theorem SpacesStay.of_append {front front' back back' : Text}
    (h : SpacesStay (front ++ back) (front' ++ back')) (hlength : front.length = front'.length) :
    SpacesStay front front' ∧ SpacesStay back back' := by
  have htake := List.forall₂_take front.length h
  have hdrop := List.forall₂_drop front.length h
  rw [List.take_left, List.take_left' hlength.symm] at htake
  rw [List.drop_left, List.drop_left' hlength.symm] at hdrop
  exact ⟨htake, hdrop⟩

theorem spacesStay_hideSpaces (text : Text) : SpacesStay (hideSpaces text) text := by
  refine List.forall₂_map_left_iff.2 (List.forall₂_same.2 fun c _ hc => ?_)
  split at hc
  · assumption
  · exact hc

theorem not_spacesStay_hideSpaces {text : Text} (h : ' ' ∈ text) :
    ¬ SpacesStay text (hideSpaces text) := by
  intro hstay
  obtain ⟨c, hc, hmem⟩ := List.mem_iff_getElem.1 h
  have hget := (List.forall₂_iff_get.1 hstay).2 c hc (by simpa using hc) hmem
  exact Span.space_not_mem_hideSpaces text (hget ▸ List.get_mem _ _)

theorem spacesStay_restore (part : Part) (text : Text) : SpacesStay text (part.restore text) := by
  cases part with
  | bare c => exact .refl text
  | quotation inner =>
    rw [Part.restore, Text.replaceFirst]
    split
    · next before after h =>
      rw [Text.cutAt?_eq_some h]
      exact ((SpacesStay.refl before).append (spacesStay_hideSpaces _)).append (.refl after)
    · exact .refl text

theorem spacesStay_foldl_restore (word : List Part) (text : Text) :
    SpacesStay text (word.foldl Part.restore text) := by
  induction word generalizing text with
  | nil => exact .refl text
  | cons part word ih => exact (spacesStay_restore part text).trans (ih _)

/-- A quotation that reads like an earlier stretch puts a space into that stretch. -/
theorem not_spacesStay_restore {front inner : Text} (hs : ' ' ∈ inner)
    (h : '"' :: hideSpaces inner ++ ['"'] <:+: front ++ ['"']) (back back' : Text) :
    ¬ SpacesStay ((Part.quotation inner).restore (front ++ '"' :: back))
      (front ++ '"' :: back') := by
  intro hstay
  rw [← hideSpaces_quotation] at h
  cases hcut : Text.cutAt? (hideSpaces ('"' :: inner ++ ['"'])) (front ++ ['"']) with
  | none => exact Text.cutAt?_eq_none_iff.1 hcut h
  | some cut =>
    obtain ⟨before, after⟩ := cut
    have hfront := Text.cutAt?_eq_some hcut
    have hback := Text.cutAt?_append hcut back
    rw [← List.append_cons] at hback
    rw [Part.restore, Text.replaceFirst_of_cutAt? hback, List.append_cons front, hfront,
      List.append_assoc _ after, List.append_assoc before, List.append_assoc before] at hstay
    have hbehind := (hstay.of_append rfl).2
    have hquotation := (hbehind.of_append (by simp)).1
    exact not_spacesStay_hideSpaces (by simp [hs]) hquotation

/-! ### All quotations of a word -/

/-- Behind a front that is as it should be, a word comes back unchanged exactly if no quotation
of it is taken for a stretch in front. The induction is on the word; the front takes in each
part that has been restored, and the first wrong step cannot be made good (`SpacesStay`). -/
theorem foldl_restore_eq_iff {word : List Part} (hw : IsWord word) (front : Text) :
    word.foldl Part.restore (front ++ hideSpaces (wordText word)) = front ++ wordText word ↔
      ∀ before inner, HasQuotation (wordText word) before inner → ' ' ∈ inner →
        ¬ '"' :: hideSpaces inner ++ ['"'] <:+: front ++ before ++ ['"'] := by
  induction hw generalizing front with
  | nil =>
    refine iff_of_true rfl fun before inner h => ?_
    exact absurd h (not_hasQuotation_nil before inner)
  | @bare c word hc hq _ ih =>
    have hmove (text : Text) : front ++ c :: text = (front ++ [c]) ++ text := by simp
    rw [wordText_cons, Part.text, List.singleton_append, Span.hideSpaces_cons_of_ne hc,
      hmove (hideSpaces _), hmove (wordText word), List.foldl_cons, Part.restore, ih]
    constructor
    · intro h before inner hhas hs
      obtain ⟨before', rfl, hhas'⟩ := (hasQuotation_bare hq before inner).1 hhas
      rw [hmove before']
      exact h before' inner hhas' hs
    · intro h before inner hhas hs
      rw [← hmove before]
      exact h (c :: before) inner ((hasQuotation_bare hq _ _).2 ⟨before, rfl, hhas⟩) hs
  | @quotation inner word hi _ ih =>
    have htext (text : Text) : '"' :: inner ++ ['"'] ++ text = '"' :: inner ++ '"' :: text := by
      simp
    have hmove (text : Text) :
        front ++ ('"' :: inner ++ '"' :: text) = (front ++ ('"' :: inner ++ ['"'])) ++ text := by
      simp
    rw [wordText_cons, Part.text, List.foldl_cons]
    by_cases hwrong : ' ' ∈ inner ∧ '"' :: hideSpaces inner ++ ['"'] <:+: front ++ ['"']
    · obtain ⟨hs, hinfix⟩ := hwrong
      -- the space that comes into the front is still there at the end
      refine iff_of_false (fun heq => ?_) (fun h => ?_)
      · have hstay := spacesStay_foldl_restore word ((Part.quotation inner).restore
          (front ++ hideSpaces ('"' :: inner ++ ['"'] ++ wordText word)))
        rw [heq, htext, List.cons_append, Span.hideSpaces_cons_of_ne (by decide)] at hstay
        exact not_spacesStay_restore hs hinfix _ _ hstay
      · have hhas : HasQuotation ('"' :: inner ++ ['"'] ++ wordText word) [] inner := by
          rw [htext]
          exact (hasQuotation_quotation hi [] inner).2 (Or.inl ⟨rfl, rfl⟩)
        exact h [] inner hhas hs (by rwa [List.append_nil])
    · -- the quotation is restored where it stands, and the front grows by it
      have hstep : (Part.quotation inner).restore
          (front ++ hideSpaces ('"' :: inner ++ ['"'] ++ wordText word)) =
          (front ++ ('"' :: inner ++ ['"'])) ++ hideSpaces (wordText word) := by
        rw [Span.hideSpaces_append, ← List.append_assoc]
        by_cases hs : ' ' ∈ inner
        · exact restore_own hi (fun h => hwrong ⟨hs, h⟩) _
        · have hq : ' ' ∉ '"' :: inner ++ ['"'] := by simp [hs]
          rw [restore_of_not_mem hs, Span.hideSpaces_of_not_mem hq]
      rw [hstep, htext, hmove (wordText word), ih]
      constructor
      · intro h before inner' hhas hs
        rcases (hasQuotation_quotation hi before inner').1 hhas with
          ⟨rfl, rfl⟩ | ⟨before', rfl, hhas'⟩
        · rw [List.append_nil]
          exact fun hinfix => hwrong ⟨hs, hinfix⟩
        · rw [hmove before']
          exact h before' inner' hhas' hs
      · intro h before inner' hhas hs
        rw [← hmove before]
        exact h _ inner' ((hasQuotation_quotation hi _ _).2 (Or.inr ⟨before, rfl, hhas⟩)) hs

/-- A word comes back unchanged exactly if it is not ambiguous. -/
theorem restored_eq_iff {word : List Part} (hw : IsWord word) :
    restored word = wordText word ↔ ¬ IsAmbiguous (wordText word) := by
  have h := foldl_restore_eq_iff hw []
  simp only [List.nil_append] at h
  rw [restored, h, IsAmbiguous]
  constructor
  · rintro hall ⟨before, inner, hhas, hs, hinfix⟩
    exact hall before inner hhas hs hinfix
  · intro hno before inner hhas hs hinfix
    exact hno ⟨before, inner, hhas, hs, hinfix⟩

/-- Restoring keeps the length of a word. -/
theorem length_restored (word : List Part) : (restored word).length = (wordText word).length := by
  have h := (spacesStay_foldl_restore word (hideSpaces (wordText word))).length_eq
  rw [restored, ← h, Span.length_hideSpaces]

end Query

end SearchFilter
