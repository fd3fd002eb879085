import Mathlib.Data.List.Basic
import SearchFilter.Text.Blank
import SearchFilter.Text.LowerCase

/-!
# Ways to spell a word

A text is trimmed and lower-cased in every script before it is compared with a word, and yet only
the capital letters of ASCII come into play: no other capital has a small letter of ASCII, but for
the Kelvin sign, which becomes a `k`, and the capital I with a dot, which leaves a dot behind its
`i`. So a text spells a word without a `k` exactly if it is the word in some mixture of ASCII cases
between white space.

* `lowerCase_eq_iff`: lower-casing in every script against ASCII.
* `trim_append`: what trimming takes away.
* `trim_eq_nil_iff`: when nothing is left.
* `spells_iff`: which texts spell a word.
-/

namespace SearchFilter

namespace Text

/-! ### Lower-casing -/

/-- A small letter of ASCII that comes from letters of ASCII alone. -/
def IsPlain (c : Char) : Prop := 97 ≤ c.toNat ∧ c.toNat ≤ 122 ∧ c.toNat ≠ 107

instance (c : Char) : Decidable (IsPlain c) :=
  inferInstanceAs (Decidable (_ ∧ _ ∧ _))

/-- In ASCII a character is lower-cased as usual. -/
theorem lowerCaseOf_of_ascii {c : Char} (h : c.toNat < 128) : lowerCaseOf c = [c.toLower] := by
  have hall : ∀ n : Fin 128, lowerCaseOf (Char.ofNat n) = [(Char.ofNat n).toLower] := by
    decide +kernel
  rw [← Char.ofNat_toNat c]
  exact hall ⟨c.toNat, h⟩

theorem toLower_of_not_ascii {c : Char} (h : 128 ≤ c.toNat) : c.toLower = c := by
  unfold Char.toLower
  refine dif_neg fun hupper => ?_
  have hle : c.toNat ≤ 90 := UInt32.le_iff_toNat_le.1 hupper.2
  omega

/-- The runs lie in ASCII, or lead to no letter of ASCII other than the `k`. -/
theorem capitalRuns_not_plain : ∀ run ∈ capitalRuns, run.last < 128 ∨ 128 ≤ run.first + run.shift ∨
    run.first = run.last ∧ run.first + run.shift = 107 := by
  decide +kernel

/-- A character has the code that it is made from, unless that is no code of a character. -/
theorem toNat_ofNat_cases (n : Nat) :
    (Char.ofNat n).toNat = n ∨ (Char.ofNat n).toNat = 0 := by
  by_cases h : n.isValidChar
  · have hvalid : Char.ofNat n = Char.ofNatAux n h := dif_pos h
    rw [hvalid]
    exact Or.inl rfl
  · have hnull : Char.ofNat n = Char.ofNat 0 := dif_neg h
    rw [hnull]
    exact Or.inr rfl

/-- A code outside ASCII is no code of a plain letter, and is none as a character. -/
theorem not_isPlain_ofNat {n : Nat} (h : 128 ≤ n ∨ n = 107) : ¬ IsPlain (Char.ofNat n) := by
  rintro ⟨hge, hle, hne⟩
  rcases toNat_ofNat_cases n with hn | hn <;> omega

/-- Outside ASCII something is left that is no plain letter. -/
theorem exists_not_isPlain_lowerCaseOf {c : Char} (h : 128 ≤ c.toNat) :
    ∃ d ∈ lowerCaseOf c, ¬ IsPlain d := by
  unfold lowerCaseOf
  split
  · exact ⟨Char.ofNat 0x307, by simp, by decide⟩
  · split
    · next run hfind =>
      refine ⟨_, List.mem_singleton_self _, not_isPlain_ofNat ?_⟩
      have hcontains := List.find?_some hfind
      simp only [CapitalRun.contains, Bool.and_eq_true, decide_eq_true_eq] at hcontains
      obtain ⟨⟨hfirst, hlast⟩, -⟩ := hcontains
      have hrun := capitalRuns_not_plain run (List.mem_of_find?_eq_some hfind)
      omega
    · refine ⟨c, List.mem_singleton_self c, fun hplain => ?_⟩
      have hle : c.toNat ≤ 122 := hplain.2.1
      omega

theorem lowerCase_of_ascii {text : Text} (h : ∀ c ∈ text, c.toNat < 128) :
    lowerCase text = text.map Char.toLower := by
  induction text with
  | nil => rfl
  | cons c text ih =>
    obtain ⟨hc, htext⟩ := List.forall_mem_cons.1 h
    have hcons : lowerCase (c :: text) = lowerCaseOf c ++ lowerCase text := List.flatMap_cons
    rw [hcons, lowerCaseOf_of_ascii hc, ih htext]
    rfl

/-- **Plain words are spelled in ASCII**: lower-casing in every script comes to such a word only
where lower-casing in ASCII does. -/
theorem lowerCase_eq_iff {text word : Text} (hword : ∀ c ∈ word, IsPlain c) :
    lowerCase text = word ↔ text.map Char.toLower = word := by
  -- either way of lower-casing shows that the text is in ASCII, and there the two agree
  have hascii : lowerCase text = word ∨ text.map Char.toLower = word →
      ∀ c ∈ text, c.toNat < 128 := by
    intro h c hc
    by_contra hnot
    have hlarge : 128 ≤ c.toNat := Nat.le_of_not_lt hnot
    rcases h with rfl | rfl
    · obtain ⟨d, hd, hplain⟩ := exists_not_isPlain_lowerCaseOf hlarge
      exact hplain (hword d (List.mem_flatMap.2 ⟨c, hc, hd⟩))
    · have hplain := hword c.toLower (List.mem_map_of_mem hc)
      rw [toLower_of_not_ascii hlarge] at hplain
      have hle : c.toNat ≤ 122 := hplain.2.1
      omega
  constructor
  · intro h
    rw [← lowerCase_of_ascii (hascii (Or.inl h))]
    exact h
  · intro h
    rw [lowerCase_of_ascii (hascii (Or.inr h))]
    exact h

/-! ### Trimming -/

theorem trimStart_append {front rest : Text} (hfront : ∀ c ∈ front, isBlank c = true)
    (hrest : ∀ c, rest.head? = some c → isBlank c = false) : trimStart (front ++ rest) = rest := by
  rw [trimStart, List.dropWhile_append_of_pos hfront]
  cases rest with
  | nil => rfl
  | cons c rest => exact List.dropWhile_cons_of_neg (by simp [hrest c rfl])

theorem trimEnd_append {front back : Text} (hback : ∀ c ∈ back, isBlank c = true)
    (hfront : ∀ c, front.getLast? = some c → isBlank c = false) :
    trimEnd (front ++ back) = front := by
  rw [trimEnd, List.reverse_append, trimStart_append, List.reverse_reverse]
  · exact fun c hc => hback c (List.mem_reverse.1 hc)
  · intro c hc
    rw [List.head?_reverse] at hc
    exact hfront c hc

/-- White space around a word is trimmed, and nothing else. -/
theorem trim_append {front middle back : Text} (hfront : ∀ c ∈ front, isBlank c = true)
    (hback : ∀ c ∈ back, isBlank c = true) (hmiddle : ∀ c ∈ middle, isBlank c = false)
    (hne : middle ≠ []) : trim (front ++ middle ++ back) = middle := by
  have hhead : ∀ c, (middle ++ back).head? = some c → isBlank c = false := by
    intro c hc
    rw [List.head?_append_of_ne_nil _ hne] at hc
    exact hmiddle c (List.mem_of_head? hc)
  rw [trim, List.append_assoc, trimStart_append hfront hhead]
  exact trimEnd_append hback fun c hc => hmiddle c (List.mem_of_getLast? hc)

theorem exists_append_trimStart (text : Text) :
    ∃ front, (∀ c ∈ front, isBlank c = true) ∧ text = front ++ trimStart text :=
  ⟨text.takeWhile isBlank, List.all_eq_true.1 List.all_takeWhile,
    List.takeWhile_append_dropWhile.symm⟩

theorem exists_trimEnd_append (text : Text) :
    ∃ back, (∀ c ∈ back, isBlank c = true) ∧ text = trimEnd text ++ back := by
  obtain ⟨front, hfront, hreverse⟩ := exists_append_trimStart text.reverse
  refine ⟨front.reverse, fun c hc => hfront c (List.mem_reverse.1 hc), ?_⟩
  rw [trimEnd, ← List.reverse_append, ← hreverse, List.reverse_reverse]

/-- What is trimmed is white space at the two ends. -/
theorem exists_append_trim_append (text : Text) :
    ∃ front back, (∀ c ∈ front, isBlank c = true) ∧ (∀ c ∈ back, isBlank c = true) ∧
      text = front ++ trim text ++ back := by
  obtain ⟨front, hfront, hstart⟩ := exists_append_trimStart text
  obtain ⟨back, hback, hend⟩ := exists_trimEnd_append (trimStart text)
  refine ⟨front, back, hfront, hback, ?_⟩
  rw [trim, List.append_assoc, ← hend, ← hstart]

theorem trim_eq_nil_iff {text : Text} : trim text = [] ↔ ∀ c ∈ text, isBlank c = true := by
  constructor
  · intro h
    obtain ⟨front, back, hfront, hback, htext⟩ := exists_append_trim_append text
    rw [h, List.append_nil] at htext
    rw [htext, List.forall_mem_append]
    exact ⟨hfront, hback⟩
  · intro h
    have hstart : trimStart text = [] := by
      rw [← List.append_nil text]
      exact trimStart_append h nofun
    rw [trim, hstart]
    rfl

/-! ### Spelling -/

/-- A text is a word in some mixture of ASCII cases, with white space around it or without. -/
def Spells (text word : Text) : Prop :=
  ∃ front middle back, text = front ++ middle ++ back ∧ (∀ c ∈ front, isBlank c = true) ∧
    (∀ c ∈ back, isBlank c = true) ∧ middle.map Char.toLower = word

theorem isBlank_of_isPlain_toLower {c : Char} (h : IsPlain c.toLower) : isBlank c = false := by
  have hascii : ∀ n : Fin 128, IsPlain (Char.ofNat n).toLower → isBlank (Char.ofNat n) = false := by
    decide +kernel
  rcases Nat.lt_or_ge c.toNat 128 with hsmall | hlarge
  · have hc := hascii ⟨c.toNat, hsmall⟩
    rw [Char.ofNat_toNat] at hc
    exact hc h
  · rw [toLower_of_not_ascii hlarge] at h
    have hle : c.toNat ≤ 122 := h.2.1
    omega

/-- **What is read as a plain word spells it**, and nothing else is. -/
theorem spells_iff {text word : Text} (hword : ∀ c ∈ word, IsPlain c) (hne : word ≠ []) :
    Spells text word ↔ lowerCase (trim text) = word := by
  constructor
  · rintro ⟨front, middle, back, rfl, hfront, hback, rfl⟩
    have hmiddle : ∀ c ∈ middle, isBlank c = false := fun c hc =>
      isBlank_of_isPlain_toLower (hword c.toLower (List.mem_map_of_mem hc))
    have hmiddle_ne : middle ≠ [] := by
      rintro rfl
      exact hne rfl
    rw [trim_append hfront hback hmiddle hmiddle_ne, lowerCase_eq_iff hword]
  · intro h
    obtain ⟨front, back, hfront, hback, htext⟩ := exists_append_trim_append text
    exact ⟨front, trim text, back, htext, hfront, hback, (lowerCase_eq_iff hword).1 h⟩

end Text

end SearchFilter
