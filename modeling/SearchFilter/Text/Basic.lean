/-!
# Text as a list of characters

The few operations on texts that the query language needs: cutting at the first occurrence of a
pattern, replacing that occurrence, and splitting at a character.

A character is a Unicode scalar value. A text therefore holds no lone surrogate, such as a file name
or an argument in an unknown encoding may bring, and every text can be encoded when it is written.

* `cutAt?_eq_some`: the pieces of a cut give the text back.
* `pieces_append_cons`: a text splits at every occurrence of the character.
-/

namespace SearchFilter

/-- A text is a list of Unicode scalar values, so that every rule on texts is a
    recursion on lists. -/
abbrev Text := List Char

namespace Text

/-! ### Cutting at a pattern -/

/-- The rest of a text that starts with `pattern`. -/
def dropStart? : Text → Text → Option Text
  | [], text => some text
  | _ :: _, [] => none
  | p :: pattern, c :: text => if p = c then dropStart? pattern text else none

/-- The text before and the text after the first occurrence of `pattern`. -/
def cutAt? (pattern : Text) : Text → Option (Text × Text)
  | [] => if pattern = [] then some ([], []) else none
  | c :: text =>
    match dropStart? pattern (c :: text) with
    | some after => some ([], after)
    | none => (cutAt? pattern text).map fun (before, after) => (c :: before, after)

/-- Whether `pattern` occurs anywhere in a text. -/
def occursIn (pattern text : Text) : Bool := (cutAt? pattern text).isSome

/-- A text with the first occurrence of `pattern`, if there is one, exchanged for
    `replacement`. -/
def replaceFirst (pattern replacement text : Text) : Text :=
  match cutAt? pattern text with
  | some (before, after) => before ++ replacement ++ after
  | none => text

theorem dropStart?_eq_some {pattern text after : Text} :
    dropStart? pattern text = some after ↔ text = pattern ++ after := by
  induction pattern generalizing text with
  | nil => simp [dropStart?]
  | cons p pattern ih =>
    cases text with
    | nil => simp [dropStart?]
    | cons c text =>
      by_cases h : p = c
      · subst h
        simp [dropStart?, ih]
      · simp [dropStart?, h, Ne.symm h]

/-- The pieces of a cut, with the pattern between them, are the text. -/
theorem cutAt?_eq_some {pattern text before after : Text}
    (h : cutAt? pattern text = some (before, after)) : text = before ++ pattern ++ after := by
  induction text generalizing before with
  | nil =>
    unfold cutAt? at h
    split at h <;> simp_all
  | cons c text ih =>
    unfold cutAt? at h
    split at h
    · next hstart =>
      simp only [Option.some.injEq, Prod.mk.injEq] at h
      obtain ⟨rfl, rfl⟩ := h
      simpa using dropStart?_eq_some.1 hstart
    · simp only [Option.map_eq_some_iff, Prod.mk.injEq] at h
      obtain ⟨⟨front, back⟩, hcut, rfl, rfl⟩ := h
      simpa using ih hcut

/-! ### Splitting at a character -/

/-- The stretches of a text between the occurrences of `mark`, empty ones included. -/
def pieces (mark : Char) : Text → List Text
  | [] => [[]]
  | c :: text =>
    if c = mark then [] :: pieces mark text
    else
      match pieces mark text with
      | [] => [[c]]
      | piece :: more => (c :: piece) :: more

theorem pieces_ne_nil (mark : Char) (text : Text) : pieces mark text ≠ [] := by
  cases text with
  | nil => simp [pieces]
  | cons c text =>
    unfold pieces
    split
    · simp
    · split <;> simp

/-- A text with the character in it splits there. -/
theorem pieces_append_cons (mark : Char) (front back : Text) :
    pieces mark (front ++ mark :: back) = pieces mark front ++ pieces mark back := by
  induction front with
  | nil => simp [pieces]
  | cons c front ih =>
    by_cases h : c = mark
    · simp [pieces, h, ih]
    · cases hsplit : pieces mark front with
      | nil => exact absurd hsplit (pieces_ne_nil mark front)
      | cons piece more => simp [pieces, h, ih, hsplit]

end Text

end SearchFilter
