import SearchFilter.Proofs.Binary64.Text
import SearchFilter.Proofs.Json.Scalar

/-!
# JSON text read back

The separators may have white space around their marks; behind each of them the reader is where the
writer was, and so items and members come back one by one.

* `takeValue?_text`: a value is read from its text, whatever is written behind it.
* `ofText?_text`: a value is read from a text that holds it alone.
-/

namespace SearchFilter

namespace Json

/-! ### Separators -/

/-- The text is a mark with white space around it. -/
def IsPadded (mark : Char) (separator : Text) : Prop :=
  ∃ front back, separator = front ++ mark :: back ∧ (∀ c ∈ front, isSpace c = true) ∧
    ∀ c ∈ back, isSpace c = true

/-- The separators of a style are those of JSON, with white space around them. -/
structure Style.IsPadded (style : Style) : Prop where
  item : Json.IsPadded ',' style.itemSeparator
  key : Json.IsPadded ':' style.keySeparator

theorem IsPadded.length_pos {mark : Char} {separator : Text} (h : IsPadded mark separator) :
    0 < separator.length := by
  obtain ⟨front, back, rfl, -, -⟩ := h
  rw [List.length_append, List.length_cons]
  omega

/-- The text does not start with white space. -/
def StartsToken (text : Text) : Prop := ∀ c ∈ text.head?, isSpace c = false

theorem startsToken_cons {c : Char} (h : isSpace c = false) (text : Text) :
    StartsToken (c :: text) := by
  intro d hd
  obtain rfl : c = d := Option.some.inj hd
  exact h

theorem skipSpace_append {front text : Text} (hfront : ∀ c ∈ front, isSpace c = true)
    (htext : StartsToken text) : skipSpace (front ++ text) = text :=
  Text.dropWhile_append_of_head hfront htext

theorem skipSpace_of_startsToken {text : Text} (h : StartsToken text) : skipSpace text = text :=
  skipSpace_append (List.forall_mem_nil _) h

/-- Behind a separator's mark there is nothing but white space. -/
theorem IsPadded.exists_skipSpace {mark : Char} {separator text : Text}
    (h : IsPadded mark separator) (hmark : isSpace mark = false) (htext : StartsToken text) :
    ∃ more, skipSpace (separator ++ text) = mark :: more ∧ skipSpace more = text := by
  obtain ⟨front, back, rfl, hfront, hback⟩ := h
  refine ⟨back ++ text, ?_, skipSpace_append hback htext⟩
  rw [List.append_assoc]
  exact skipSpace_append hfront (startsToken_cons hmark _)

theorem isNumberChar_of_isSpace {c : Char} (h : isSpace c = true) : isNumberChar c = false := by
  simp only [isSpace, Bool.or_eq_true, decide_eq_true_eq] at h
  rcases h with ((rfl | rfl) | rfl) | rfl
  · decide
  · decide
  · decide
  · decide

/-- A separator ends a number. -/
theorem IsPadded.endsNumber {mark : Char} {separator : Text} (h : IsPadded mark separator)
    (hmark : isNumberChar mark = false) (text : Text) : EndsNumber (separator ++ text) := by
  obtain ⟨front, back, rfl, hfront, -⟩ := h
  intro c hc
  cases front with
  | nil =>
    obtain rfl : mark = c := Option.some.inj hc
    exact hmark
  | cons d front =>
    obtain rfl : d = c := Option.some.inj hc
    exact isNumberChar_of_isSpace (hfront d List.mem_cons_self)

theorem endsNumber_cons {c : Char} (h : isNumberChar c = false) (text : Text) :
    EndsNumber (c :: text) := by
  intro d hd
  obtain rfl : c = d := Option.some.inj hd
  exact h

/-! ### Values -/

section

variable {text rest more : Text} {name : Text} {value : Json}

theorem takeValue?_of_head {c : Char} (harray : c ≠ '[') (hobject : c ≠ '\x7b') (text : Text) :
    takeValue? (c :: text) = takeScalar? (c :: text) := by
  rw [takeValue?]
  · rintro _ heq
    exact harray (List.cons.inj heq).1
  · rintro _ heq
    exact hobject (List.cons.inj heq).1

/-- The last item of an array. -/
theorem takeItems?_last (h : takeValue? text = some (value, rest))
    (hrest : skipSpace rest = ']' :: more) : takeItems? text = some ([value], more) := by
  rw [takeItems?, h]
  dsimp only
  rw [hrest]
  rfl

/-- An item of an array with others behind it. -/
theorem takeItems?_more (h : takeValue? text = some (value, rest))
    (hrest : skipSpace rest = ',' :: more) (hlt : (skipSpace more).length < text.length) :
    takeItems? text =
      (takeItems? (skipSpace more)).map fun (items, rest) => (value :: items, rest) := by
  rw [takeItems?, h]
  dsimp only
  rw [hrest]
  exact if_pos hlt

/-- The last member of an object. -/
theorem takeMembers?_last {front : Text} (hname : takeName? text = some (name, front))
    (hfront : front.length < text.length) (h : takeValue? front = some (value, rest))
    (hrest : skipSpace rest = '\x7d' :: more) :
    takeMembers? text = some ([(name, value)], more) := by
  rw [takeMembers?, hname]
  dsimp only
  rw [if_pos hfront, h]
  dsimp only
  rw [hrest]
  rfl

/-- A member of an object with others behind it. -/
theorem takeMembers?_more {front : Text} (hname : takeName? text = some (name, front))
    (hfront : front.length < text.length) (h : takeValue? front = some (value, rest))
    (hrest : skipSpace rest = ',' :: more) (hlt : (skipSpace more).length < text.length) :
    takeMembers? text =
      (takeMembers? (skipSpace more)).map fun (members, rest) =>
        ((name, value) :: members, rest) := by
  rw [takeMembers?, hname]
  dsimp only
  rw [if_pos hfront, h]
  dsimp only
  rw [hrest]
  exact if_pos hlt

end

section

variable {style : Style}

/-- A finite number and its text. -/
theorem exists_isMagnitude_number {x : Binary64} (h : x.isFinite = true) :
    ∃ negative magnitude coefficient exponent,
      x.text .json = Binary64.signed negative magnitude ∧
        IsMagnitude magnitude coefficient exponent false ∧
          Binary64.ofDecimal ⟨negative, coefficient, exponent⟩ = x := by
  cases x with
  | finite negative code =>
    obtain ⟨coefficient, exponent, hmagnitude, hvalue⟩ := Binary64.exists_isMagnitude negative code
    exact ⟨negative, _, coefficient, exponent, rfl, hmagnitude, hvalue⟩
  | infinite negative => cases h
  | nan => cases h

theorem isMagnitude_numeral (n : Nat) : IsMagnitude (Binary64.numeral n) n 0 true := by
  have hmagnitude := IsMagnitude.mk (Binary64.isWhole_numeral n) .absent .absent
  rw [List.append_nil, List.append_nil, Binary64.ofDigitChars_numeral] at hmagnitude
  exact hmagnitude

/-- A number with its sign starts with a sign or a digit. -/
theorem exists_signed_eq_cons {text : Text} {coefficient : Nat} {exponent : Int} {integer : Bool}
    (h : IsMagnitude text coefficient exponent integer) (negative : Bool) :
    ∃ c more, Binary64.signed negative text = c :: more ∧ (c = '-' ∨ c.isDigit = true) := by
  obtain ⟨c, more, rfl, hc⟩ := h.exists_eq_cons
  cases negative with
  | false => exact ⟨c, more, rfl, Or.inr hc⟩
  | true => exact ⟨'-', c :: more, rfl, Or.inl rfl⟩

theorem takeValue?_signed {text : Text} {coefficient : Nat} {exponent : Int} {integer : Bool}
    (h : IsMagnitude text coefficient exponent integer) (negative : Bool) {rest : Text}
    (hrest : EndsNumber rest) :
    takeValue? (Binary64.signed negative text ++ rest) =
      some (if integer then .integer (if negative then -coefficient else coefficient)
        else .number (Binary64.ofDecimal ⟨negative, coefficient, exponent⟩), rest) := by
  obtain ⟨c, more, htext, hc⟩ := exists_signed_eq_cons h negative
  have harray : c ≠ '[' := by
    rintro rfl
    exact absurd hc (by decide)
  have hobject : c ≠ '\x7b' := by
    rintro rfl
    exact absurd hc (by decide)
  rw [← takeNumber?_signed h negative hrest, ← takeScalar?_signed h negative rest, htext]
  exact takeValue?_of_head harray hobject (more ++ rest)

theorem takeValue?_stringText (asciiOnly : Bool) (value rest : Text) :
    takeValue? (stringText asciiOnly value ++ rest) = some (string value, rest) := by
  rw [← takeScalar?_stringText asciiOnly value rest]
  exact takeValue?_of_head (by decide) (by decide) _

theorem takeName?_stringText (h : style.IsPadded) (name : Text) {text : Text}
    (htext : StartsToken text) :
    takeName? (stringText style.asciiOnly name ++ style.keySeparator ++ text) =
      some (name, text) := by
  obtain ⟨more, hkey, hmore⟩ := h.key.exists_skipSpace (by decide) htext
  have hstring := takeString?_flatMap style.asciiOnly name (style.keySeparator ++ text)
  have hname : stringText style.asciiOnly name ++ style.keySeparator ++ text =
      '"' :: (name.flatMap (stringChar style.asciiOnly) ++
        '"' :: (style.keySeparator ++ text)) := by
    simp [stringText]
  rw [hname, takeName?, hstring, Option.bind_eq_bind, Option.bind_some]
  dsimp only
  rw [hkey]
  exact congrArg (fun rest => some (name, rest)) hmore

/-- The text of a value starts with neither white space nor the end of an array. -/
theorem exists_text_eq_cons (style : Style) {value : Json} (h : value.isFinite = true) :
    ∃ c more, value.text style = c :: more ∧ isSpace c = false ∧ c ≠ ']' := by
  -- whole and other numbers are written as a magnitude behind a sign
  have hsigned : ∀ negative text coefficient exponent integer,
      IsMagnitude text coefficient exponent integer →
        ∃ c more, Binary64.signed negative text = c :: more ∧ isSpace c = false ∧ c ≠ ']' := by
    intro negative text coefficient exponent integer hmagnitude
    obtain ⟨c, more, htext, hc⟩ := exists_signed_eq_cons hmagnitude negative
    refine ⟨c, more, htext, ?_, ?_⟩
    · by_contra hspace
      rw [Bool.not_eq_false] at hspace
      have hnone := isNumberChar_of_isSpace hspace
      rcases hc with rfl | hc
      · exact absurd hnone (by decide)
      · rw [isNumberChar, hc] at hnone
        exact absurd hnone (by simp)
    · rintro rfl
      exact absurd hc (by decide)
  cases value with
  | null => exact ⟨_, _, rfl, by decide, by decide⟩
  | boolean value =>
    cases value with
    | false => exact ⟨_, _, rfl, by decide, by decide⟩
    | true => exact ⟨_, _, rfl, by decide, by decide⟩
  | integer value => exact hsigned _ _ _ _ _ (isMagnitude_numeral value.natAbs)
  | number x =>
    obtain ⟨negative, magnitude, coefficient, exponent, htext, hmagnitude, -⟩ :=
      exists_isMagnitude_number h
    have hnumber : (number x).text style = Binary64.signed negative magnitude := htext
    rw [hnumber]
    exact hsigned _ _ _ _ _ hmagnitude
  | string value => exact ⟨_, _, rfl, by decide, by decide⟩
  | array items => exact ⟨_, _, rfl, by decide, by decide⟩
  | object members => exact ⟨_, _, rfl, by decide, by decide⟩

theorem takeValue?_integerText (value : Int) {rest : Text} (hrest : EndsNumber rest) :
    takeValue? (integerText value ++ rest) = some (integer value, rest) := by
  have hvalue : (if decide (value < 0) = true then -(value.natAbs : Int) else value.natAbs) =
      value := by
    split
    · next hneg =>
      rw [decide_eq_true_eq] at hneg
      omega
    · next hneg =>
      rw [decide_eq_true_eq] at hneg
      omega
  rw [integerText, takeValue?_signed (isMagnitude_numeral value.natAbs) _ hrest, if_pos rfl, hvalue]

theorem takeValue?_number {x : Binary64} (h : x.isFinite = true) {rest : Text}
    (hrest : EndsNumber rest) : takeValue? (x.text .json ++ rest) = some (number x, rest) := by
  obtain ⟨negative, magnitude, coefficient, exponent, htext, hmagnitude, hvalue⟩ :=
    exists_isMagnitude_number h
  rw [htext, takeValue?_signed hmagnitude negative hrest, if_neg Bool.false_ne_true, hvalue]

/-- What stands behind the opening bracket of an array that is not empty. -/
theorem takeValue?_array {text : Text} {items : List Json} {rest : Text} {c : Char} {more : Text}
    (htext : text = c :: more) (hspace : isSpace c = false) (hc : c ≠ ']')
    (h : takeItems? text = some (items, rest)) :
    takeValue? ('[' :: text) = some (array items, rest) := by
  have hskip : skipSpace text = text := by
    rw [htext]
    exact skipSpace_of_startsToken (startsToken_cons hspace more)
  rw [takeValue?]
  split
  · next heq =>
    rw [hskip, htext] at heq
    exact absurd (List.cons.inj heq).1 hc
  · rw [hskip, h]
    rfl

theorem takeValue?_object {text : Text} {members : List (Text × Json)} {rest : Text} {more : Text}
    (htext : text = '"' :: more) (h : takeMembers? text = some (members, rest)) :
    takeValue? ('\x7b' :: text) = some (object members, rest) := by
  have hskip : skipSpace text = text := by
    rw [htext]
    exact skipSpace_of_startsToken (startsToken_cons (by decide) more)
  rw [takeValue?]
  split
  · next heq =>
    rw [hskip, htext] at heq
    exact absurd (List.cons.inj heq).1 (by decide)
  · rw [hskip, h]
    rfl

/-- The text of items starts as that of the first one. -/
theorem exists_itemsText_eq_cons (style : Style) {items : List Json} (hne : items ≠ [])
    (h : allFinite items = true) :
    ∃ c more, itemsText style items = c :: more ∧ isSpace c = false ∧ c ≠ ']' := by
  match items with
  | [item] =>
    rw [allFinite, Bool.and_eq_true] at h
    exact exists_text_eq_cons style h.1
  | item :: next :: items =>
    rw [allFinite, Bool.and_eq_true] at h
    obtain ⟨c, more, htext, hc⟩ := exists_text_eq_cons style h.1
    rw [itemsText, htext]
    · exact ⟨c, _, rfl, hc⟩
    · exact fun hnil => absurd hnil (List.cons_ne_nil _ _)

theorem startsToken_text_append (style : Style) {value : Json} (h : value.isFinite = true)
    (rest : Text) : StartsToken (value.text style ++ rest) := by
  obtain ⟨c, more, htext, hspace, -⟩ := exists_text_eq_cons style h
  rw [htext]
  exact startsToken_cons hspace (more ++ rest)

/-- The text of members starts with a quote. -/
theorem exists_membersText_eq_cons (style : Style) {members : List (Text × Json)}
    (hne : members ≠ []) : ∃ more, membersText style members = '"' :: more := by
  match members with
  | [(name, value)] => exact ⟨_, rfl⟩
  | (name, value) :: next :: members => exact ⟨_, rfl⟩

mutual

-- the three are proved together, since values hold items and members and these hold values
/-- A value is read from its text, whatever is written behind it. -/
theorem takeValue?_text (h : style.IsPadded) (value : Json) (hfinite : value.isFinite = true)
    {rest : Text} (hrest : EndsNumber rest) :
    takeValue? (value.text style ++ rest) = some (value, rest) := by
  match value with
  | .null => exact takeValue?_of_head (by decide) (by decide) _
  | .boolean true => exact takeValue?_of_head (by decide) (by decide) _
  | .boolean false => exact takeValue?_of_head (by decide) (by decide) _
  | .integer value => exact takeValue?_integerText value hrest
  | .number x => exact takeValue?_number hfinite hrest
  | .string value => exact takeValue?_stringText style.asciiOnly value rest
  | .array [] =>
    show takeValue? ('[' :: ']' :: rest) = some (array [], rest)
    rw [takeValue?, skipSpace_of_startsToken (startsToken_cons (by decide) rest)]
    rfl
  | .array (item :: items) =>
    have hne := List.cons_ne_nil item items
    -- the first item does not begin with the bracket that would end an empty array
    have hitems := takeItems?_text h (item :: items) hne hfinite rest
    obtain ⟨c, more, htext, hspace, hc⟩ := exists_itemsText_eq_cons style hne hfinite
    have hstart : itemsText style (item :: items) ++ ']' :: rest = c :: (more ++ ']' :: rest) := by
      rw [htext]
      rfl
    show takeValue? ('[' :: (itemsText style (item :: items) ++ [']'] ++ rest)) = _
    rw [List.append_assoc]
    exact takeValue?_array hstart hspace hc hitems
  | .object [] =>
    show takeValue? ('\x7b' :: '\x7d' :: rest) = some (object [], rest)
    rw [takeValue?, skipSpace_of_startsToken (startsToken_cons (by decide) rest)]
    rfl
  | .object (member :: members) =>
    have hne := List.cons_ne_nil member members
    have hmembers := takeMembers?_text h (member :: members) hne hfinite rest
    obtain ⟨more, htext⟩ := exists_membersText_eq_cons style hne
    have hstart : membersText style (member :: members) ++ '\x7d' :: rest =
        '"' :: (more ++ '\x7d' :: rest) := by
      rw [htext]
      rfl
    show takeValue? ('\x7b' :: (membersText style (member :: members) ++ ['\x7d'] ++ rest)) = _
    rw [List.append_assoc]
    exact takeValue?_object hstart hmembers

/-- Items are read from their text up to the end of the array. -/
theorem takeItems?_text (h : style.IsPadded) (items : List Json) (hne : items ≠ [])
    (hfinite : allFinite items = true) (rest : Text) :
    takeItems? (itemsText style items ++ ']' :: rest) = some (items, rest) := by
  match items with
  | [item] =>
    rw [allFinite, Bool.and_eq_true] at hfinite
    have hitem := takeValue?_text h item hfinite.1 (endsNumber_cons (c := ']') (by decide) rest)
    exact takeItems?_last hitem (skipSpace_of_startsToken (startsToken_cons (by decide) rest))
  | item :: next :: items =>
    rw [allFinite, Bool.and_eq_true] at hfinite
    have hitems := takeItems?_text h (next :: items) (List.cons_ne_nil _ _) hfinite.2 rest
    obtain ⟨c, more, htext, hspace, -⟩ :=
      exists_itemsText_eq_cons style (List.cons_ne_nil next items) hfinite.2
    -- the separator ends the item, and what is behind its mark is the text of the others
    have hstarts : StartsToken (itemsText style (next :: items) ++ ']' :: rest) := by
      rw [htext]
      exact startsToken_cons hspace _
    obtain ⟨behind, hmark, hbehind⟩ := h.item.exists_skipSpace (by decide) hstarts
    have hitem := takeValue?_text h item hfinite.1 (h.item.endsNumber (by decide)
      (itemsText style (next :: items) ++ ']' :: rest))
    have hitemsText : itemsText style (item :: next :: items) ++ ']' :: rest =
        item.text style ++ (style.itemSeparator ++
          (itemsText style (next :: items) ++ ']' :: rest)) := by
      rw [itemsText]
      · simp only [List.append_assoc]
      · exact fun hnil => absurd hnil (List.cons_ne_nil _ _)
    rw [hitemsText, takeItems?_more hitem hmark, hbehind, hitems]
    · rfl
    · have hpos := h.item.length_pos
      simp only [hbehind, List.length_append]
      omega

/-- Members are read from their text up to the end of the object. -/
theorem takeMembers?_text (h : style.IsPadded) (members : List (Text × Json)) (hne : members ≠ [])
    (hfinite : membersFinite members = true) (rest : Text) :
    takeMembers? (membersText style members ++ '\x7d' :: rest) = some (members, rest) := by
  have hpos := h.key.length_pos
  match members with
  | [(name, value)] =>
    rw [membersFinite, Bool.and_eq_true] at hfinite
    have hname := takeName?_stringText h name
      (startsToken_text_append style hfinite.1 ('\x7d' :: rest))
    have hvalue := takeValue?_text h value hfinite.1
      (endsNumber_cons (c := '\x7d') (by decide) rest)
    have hend := skipSpace_of_startsToken (startsToken_cons (c := '\x7d') (by decide) rest)
    rw [membersText, List.append_assoc]
    refine takeMembers?_last hname ?_ hvalue hend
    simp only [List.length_append]
    omega
  | (name, value) :: next :: members =>
    rw [membersFinite, Bool.and_eq_true] at hfinite
    have hmembers := takeMembers?_text h (next :: members) (List.cons_ne_nil _ _) hfinite.2 rest
    obtain ⟨more, htext⟩ := exists_membersText_eq_cons style (List.cons_ne_nil next members)
    -- as for items, with the separator of a key between name and value
    have hstarts : StartsToken (membersText style (next :: members) ++ '\x7d' :: rest) := by
      rw [htext]
      exact startsToken_cons (by decide) _
    obtain ⟨behind, hmark, hbehind⟩ := h.item.exists_skipSpace (by decide) hstarts
    have hname := takeName?_stringText h name (startsToken_text_append style hfinite.1
      (style.itemSeparator ++ (membersText style (next :: members) ++ '\x7d' :: rest)))
    have hvalue := takeValue?_text h value hfinite.1 (h.item.endsNumber (by decide)
      (membersText style (next :: members) ++ '\x7d' :: rest))
    have hmembersText : membersText style ((name, value) :: next :: members) ++ '\x7d' :: rest =
        stringText style.asciiOnly name ++ style.keySeparator ++ (value.text style ++
          (style.itemSeparator ++ (membersText style (next :: members) ++ '\x7d' :: rest))) := by
      rw [membersText]
      · simp only [List.append_assoc]
      · exact fun hnil => absurd hnil (List.cons_ne_nil _ _)
    rw [hmembersText, takeMembers?_more hname _ hvalue hmark, hbehind, hmembers]
    · rfl
    · simp only [hbehind, List.length_append]
      omega
    · simp only [List.length_append]
      omega

end

/-- A value whose numbers are finite is read back from its text, in every style with the separators
of JSON. -/
theorem ofText?_text (h : style.IsPadded) {value : Json} (hfinite : value.isFinite = true) :
    ofText? (value.text style) = some value := by
  have hstarts := startsToken_text_append style hfinite []
  have hend : EndsNumber [] := fun c hc => absurd hc (by simp)
  have hvalue := takeValue?_text h value hfinite hend
  rw [List.append_nil] at hstarts hvalue
  rw [ofText?, skipSpace_of_startsToken hstarts, hvalue]
  rfl

end

end Json

end SearchFilter
