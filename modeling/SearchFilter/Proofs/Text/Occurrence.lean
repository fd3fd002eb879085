import Mathlib.Data.List.Basic
import SearchFilter.Text.Basic

/-!
# First occurrences of a pattern in a text

Cutting a text at a pattern looks for its first occurrence.

* `cutAt?_append_append`: a pattern is found where it was written, unless it already occurs in what
  stands there without its last character.
* `cutAt?_append`: what was found is found again, whatever is written behind.
-/

namespace SearchFilter

namespace Text

theorem dropStart?_eq_none_iff {pattern text : Text} :
    dropStart? pattern text = none ↔ ¬ pattern <+: text := by
  rw [Option.eq_none_iff_forall_ne_some]
  constructor
  · rintro h ⟨after, hafter⟩
    exact h after (dropStart?_eq_some.2 hafter.symm)
  · intro h after hafter
    exact h ⟨after, (dropStart?_eq_some.1 hafter).symm⟩

/-- One step of the search: the pattern starts here, or it is sought behind. -/
theorem cutAt?_cons_of_not_isPrefix {pattern text : Text} {c : Char}
    (h : ¬ pattern <+: c :: text) :
    cutAt? pattern (c :: text) = (cutAt? pattern text).map fun (before, after) =>
      (c :: before, after) := by
  rw [cutAt?, dropStart?_eq_none_iff.2 h]

theorem cutAt?_of_isPrefix {pattern after : Text} :
    cutAt? pattern (pattern ++ after) = some ([], after) := by
  cases pattern with
  | nil =>
    cases after with
    | nil => rfl
    | cons c after => rfl
  | cons p pattern =>
    have hstart : dropStart? (p :: pattern) (p :: (pattern ++ after)) = some after :=
      dropStart?_eq_some.2 rfl
    rw [List.cons_append, cutAt?, hstart]

/-- A pattern that does not occur is not found. -/
theorem cutAt?_eq_none_iff {pattern text : Text} :
    cutAt? pattern text = none ↔ ¬ pattern <:+: text := by
  induction text with
  | nil =>
    rw [cutAt?, List.infix_nil]
    split
    · next h => simp [h]
    · next h => simp [h]
  | cons c text ih =>
    rw [List.infix_cons_iff, not_or, ← ih]
    by_cases h : pattern <+: c :: text
    · obtain ⟨after, hafter⟩ := h
      rw [← hafter, cutAt?_of_isPrefix]
      simp
    · rw [cutAt?_cons_of_not_isPrefix h, Option.map_eq_none_iff]
      exact ⟨fun hnone => ⟨h, hnone⟩, fun hnone => hnone.2⟩

theorem occursIn_iff {pattern text : Text} : occursIn pattern text = true ↔ pattern <:+: text := by
  rw [occursIn, Option.isSome_iff_ne_none, ne_eq, cutAt?_eq_none_iff, not_not]

/-- What was found is found again when more is written behind the text. -/
theorem cutAt?_append {pattern text before after : Text}
    (h : cutAt? pattern text = some (before, after)) (more : Text) :
    cutAt? pattern (text ++ more) = some (before, after ++ more) := by
  have htext := cutAt?_eq_some h
  induction text generalizing before with
  | nil =>
    simp only [List.nil_eq, List.append_eq_nil_iff] at htext
    obtain ⟨⟨rfl, rfl⟩, rfl⟩ := htext
    exact cutAt?_of_isPrefix
  | cons c text ih =>
    by_cases hstart : pattern <+: c :: text
    · obtain ⟨rest, hrest⟩ := hstart
      rw [← hrest, cutAt?_of_isPrefix] at h
      obtain ⟨rfl, rfl⟩ := Prod.mk.inj (Option.some.inj h)
      rw [← hrest, List.append_assoc, cutAt?_of_isPrefix]
    · rw [cutAt?_cons_of_not_isPrefix hstart, Option.map_eq_some_iff] at h
      obtain ⟨⟨front, back⟩, hcut, heq⟩ := h
      obtain ⟨rfl, rfl⟩ := Prod.mk.inj heq
      have htext' := cutAt?_eq_some hcut
      -- the text is long enough for the pattern, so nothing behind it makes up a start
      have hstart' : ¬ pattern <+: c :: text ++ more := by
        intro hprefix
        apply hstart
        refine List.prefix_of_prefix_length_le hprefix (List.prefix_append _ more) ?_
        rw [htext', List.length_cons, List.length_append, List.length_append]
        omega
      rw [List.cons_append] at hstart' ⊢
      rw [cutAt?_cons_of_not_isPrefix hstart', ih hcut htext']
      rfl

/-- A pattern within a text, cut in front of the pattern's last character. -/
theorem append_append_eq_dropLast {pattern : Text} (hne : pattern ≠ []) (front back : Text) :
    front ++ pattern ++ back = front ++ pattern.dropLast ++ (pattern.getLast hne :: back) := by
  conv_lhs => rw [← List.dropLast_append_getLast hne]
  simp

/-- A pattern is found where it was written, if it does not occur before: such an occurrence
ends in front of the last character written. -/
theorem cutAt?_append_append {pattern front : Text} (hne : pattern ≠ [])
    (h : ¬ pattern <:+: front ++ pattern.dropLast) (back : Text) :
    cutAt? pattern (front ++ pattern ++ back) = some (front, back) := by
  induction front with
  | nil => exact cutAt?_of_isPrefix
  | cons c front ih =>
    rw [List.cons_append, List.infix_cons_iff, not_or] at h
    have hstart : ¬ pattern <+: c :: (front ++ pattern ++ back) := by
      intro hprefix
      apply h.1
      have hwhole : c :: (front ++ pattern ++ back) =
          (c :: (front ++ pattern.dropLast)) ++ (pattern.getLast hne :: back) := by
        rw [append_append_eq_dropLast hne front back, List.cons_append]
      rw [hwhole] at hprefix
      refine List.prefix_of_prefix_length_le hprefix (List.prefix_append _ _) ?_
      rw [List.length_cons, List.length_append, List.length_dropLast]
      omega
    rw [List.cons_append, List.cons_append, cutAt?_cons_of_not_isPrefix hstart, ih h.2]
    rfl

/-- A text has one cut at the first occurrence of a character. -/
theorem append_cons_inj_of_not_mem {mark : Char} {front front' back back' : Text}
    (h : mark ∉ front) (h' : mark ∉ front')
    (heq : front ++ mark :: back = front' ++ mark :: back') :
    front = front' ∧ back = back' := by
  induction front generalizing front' with
  | nil =>
    cases front' with
    | nil => exact ⟨rfl, (List.cons.inj heq).2⟩
    | cons d front' => exact absurd ((List.cons.inj heq).1 ▸ List.mem_cons_self) h'
  | cons c front ih =>
    rw [List.mem_cons, not_or] at h
    cases front' with
    | nil => exact absurd (List.cons.inj heq).1.symm h.1
    | cons d front' =>
      rw [List.mem_cons, not_or] at h'
      obtain ⟨rfl, htail⟩ := List.cons.inj heq
      obtain ⟨rfl, rfl⟩ := ih h.2 h'.2 htail
      exact ⟨rfl, rfl⟩

/-! ### Replacing the first occurrence -/

theorem replaceFirst_of_cutAt? {pattern text before after : Text}
    (h : cutAt? pattern text = some (before, after)) (replacement : Text) :
    replaceFirst pattern replacement text = before ++ replacement ++ after := by
  rw [replaceFirst, h]

/-- Replacing a pattern by itself changes nothing. -/
theorem replaceFirst_self (pattern text : Text) : replaceFirst pattern pattern text = text := by
  unfold replaceFirst
  split
  · next before after h => exact (cutAt?_eq_some h).symm
  · rfl

/-! ### Pairs of characters -/

/-- Two characters next to each other in two texts are so in one of them, or where they meet. -/
theorem pair_infix_append {a b : Char} {front back : Text} (h : [a, b] <:+: front ++ back) :
    [a, b] <:+: front ∨ [a, b] <:+: back ∨ front.getLast? = some a ∧ back.head? = some b := by
  rcases List.infix_append_iff.1 h with h | h | ⟨left, right, hpair, hleft, hright⟩
  · exact Or.inl h
  · exact Or.inr (Or.inl h)
  · match left, right, hpair with
    | [], _, hpair =>
      rw [List.nil_append] at hpair
      rw [hpair]
      exact Or.inr (Or.inl hright.isInfix)
    | [_], [_], hpair =>
      obtain ⟨rfl, rfl⟩ : a = _ ∧ b = _ := by simpa using hpair
      obtain ⟨_, rfl⟩ := hleft
      obtain ⟨_, rfl⟩ := hright
      exact Or.inr (Or.inr ⟨by simp, by simp⟩)
    | _, [], hpair =>
      rw [List.append_nil] at hpair
      rw [hpair]
      exact Or.inl hleft.isInfix
    | _ :: _ :: _, _ :: _, hpair => simp at hpair

theorem not_infix_of_not_mem {pattern text : Text} {c : Char} (hc : c ∈ pattern) (h : c ∉ text) :
    ¬ pattern <:+: text := by
  intro hoccurs
  exact h (hoccurs.subset hc)

end Text

end SearchFilter
