import SearchFilter.Proofs.Json.RoundTrip
import SearchFilter.Text.Blank

/-!
# The characters of JSON text

A text is put together from marks, words, numbers, separators and string literals, so that what
these parts have in common the whole text has. A scan from the left tells the literals from the
rest: a backslash keeps the character behind it from ending one, and so no string, whatever it
holds, ends its own literal.

* `HoldsOfParts.text`: what holds of all parts holds of a text.
* `bounds_of_mem_text`: the range of the characters of a text.
* `not_isBlank_of_mem_bare_text`: a compact text has white space in its literals only.
-/

namespace SearchFilter

namespace Json

/-! ### The parts of a text -/

/-- A property of the parts that texts of a style are put together from, which texts keep when one
is written behind another. -/
structure HoldsOfParts (style : Style) (motive : Text → Prop) : Prop where
  append : ∀ front back, motive front → motive back → motive (front ++ back)
  mark : ∀ c ∈ ['[', ']', '\x7b', '\x7d'], motive [c]
  word : ∀ word ∈ ["null".toList, "true".toList, "false".toList], motive word
  number : ∀ text, (∀ c ∈ text, isNumberChar c = true) → motive text
  string : ∀ value, motive (stringText style.asciiOnly value)
  itemSeparator : motive style.itemSeparator
  keySeparator : motive style.keySeparator

theorem isNumberChar_signed {text : Text} {coefficient : Nat} {exponent : Int} {integer : Bool}
    (h : IsMagnitude text coefficient exponent integer) (negative : Bool) :
    ∀ c ∈ Binary64.signed negative text, isNumberChar c = true := by
  cases negative with
  | false => exact h.isNumberChar
  | true => exact List.forall_mem_cons.2 ⟨by decide, h.isNumberChar⟩

namespace HoldsOfParts

variable {style : Style} {motive : Text → Prop}

theorem nil (h : HoldsOfParts style motive) : motive [] := h.number [] (List.forall_mem_nil _)

theorem bracketed (h : HoldsOfParts style motive) {opening closing : Char} {text : Text}
    (hopening : opening ∈ ['[', ']', '\x7b', '\x7d'])
    (hclosing : closing ∈ ['[', ']', '\x7b', '\x7d']) (htext : motive text) :
    motive (opening :: text ++ [closing]) :=
  h.append (opening :: text) [closing] (h.append [opening] text (h.mark opening hopening) htext)
    (h.mark closing hclosing)

theorem member (h : HoldsOfParts style motive) (name : Text) {text : Text} (htext : motive text) :
    motive (stringText style.asciiOnly name ++ style.keySeparator ++ text) :=
  h.append _ _ (h.append _ _ (h.string name) h.keySeparator) htext

mutual

-- together, as values hold items and members and these hold values
/-- What holds of all parts holds of the text of a value with finite numbers. -/
theorem text (h : HoldsOfParts style motive) (value : Json) (hfinite : value.isFinite = true) :
    motive (value.text style) := by
  match value with
  | .null => exact h.word "null".toList (by decide)
  | .boolean true => exact h.word "true".toList (by decide)
  | .boolean false => exact h.word "false".toList (by decide)
  | .integer value =>
    exact h.number _ (isNumberChar_signed (isMagnitude_numeral value.natAbs) (value < 0))
  | .number x =>
    obtain ⟨negative, magnitude, coefficient, exponent, htext, hmagnitude, -⟩ :=
      exists_isMagnitude_number hfinite
    have hchars := h.number _ (isNumberChar_signed hmagnitude negative)
    rwa [← htext] at hchars
  | .string value => exact h.string value
  | .array items => exact h.bracketed (by decide) (by decide) (h.items items hfinite)
  | .object members => exact h.bracketed (by decide) (by decide) (h.members members hfinite)

theorem items (h : HoldsOfParts style motive) (items : List Json)
    (hfinite : allFinite items = true) : motive (itemsText style items) := by
  match items with
  | [] => exact h.nil
  | [item] =>
    rw [allFinite, Bool.and_eq_true] at hfinite
    exact h.text item hfinite.1
  | item :: next :: items =>
    rw [allFinite, Bool.and_eq_true] at hfinite
    have hitem := h.append _ _ (h.text item hfinite.1) h.itemSeparator
    exact h.append _ _ hitem (h.items (next :: items) hfinite.2)

theorem members (h : HoldsOfParts style motive) (members : List (Text × Json))
    (hfinite : membersFinite members = true) : motive (membersText style members) := by
  match members with
  | [] => exact h.nil
  | [(name, value)] =>
    rw [membersFinite, Bool.and_eq_true] at hfinite
    exact h.member name (h.text value hfinite.1)
  | (name, value) :: next :: members =>
    rw [membersFinite, Bool.and_eq_true] at hfinite
    have hmember := h.append _ _ (h.member name (h.text value hfinite.1)) h.itemSeparator
    exact h.append _ _ hmember (h.members (next :: members) hfinite.2)

end

end HoldsOfParts

/-! ### The range of the characters -/

/-- A printable ASCII character. -/
def isAscii (c : Char) : Bool := 0x20 ≤ c.toNat && c.toNat ≤ 0x7E

/-- No control character, and with the ASCII restriction nothing outside printable ASCII. -/
def IsInRange (style : Style) (text : Text) : Prop :=
  ∀ c ∈ text, 0x20 ≤ c.toNat ∧ (style.asciiOnly = true → c.toNat ≤ 0x7E)

theorem isInRange_of_all {style : Style} {text : Text} (h : text.all isAscii = true) :
    IsInRange style text := by
  intro c hc
  have hrange := List.all_eq_true.1 h c hc
  rw [isAscii, Bool.and_eq_true, decide_eq_true_eq, decide_eq_true_eq] at hrange
  exact ⟨hrange.1, fun _ => hrange.2⟩

theorem bounds_of_isNumberChar {c : Char} (h : isNumberChar c = true) :
    0x23 ≤ c.toNat ∧ c.toNat ≤ 0x7E := by
  rw [isNumberChar, Bool.or_eq_true] at h
  rcases h with hdigit | hmark
  · obtain ⟨hlow, hhigh⟩ := toNat_bounds_of_isDigit hdigit
    omega
  · have hmarks : ['-', '+', '.', 'e', 'E'].all
        (fun mark => decide (0x23 ≤ mark.toNat ∧ mark.toNat ≤ 0x7E)) = true := by decide
    exact of_decide_eq_true (List.all_eq_true.1 hmarks c (List.elem_iff.1 hmark))

theorem holdsOfParts_isInRange {style : Style} (hitem : IsInRange style style.itemSeparator)
    (hkey : IsInRange style style.keySeparator) : HoldsOfParts style (IsInRange style) where
  append := fun _ _ hfront hback => List.forall_mem_append.2 ⟨hfront, hback⟩
  mark := by
    intro c hc
    have hmarks : ['[', ']', '\x7b', '\x7d'].all isAscii = true := by decide
    have hmark := List.all_eq_true.1 hmarks c hc
    exact isInRange_of_all (List.all_eq_true.2 (List.forall_mem_singleton.2 hmark))
  word := by
    intro word hword
    have hwords : ∀ word ∈ ["null".toList, "true".toList, "false".toList],
        word.all isAscii = true := by decide
    exact isInRange_of_all (hwords word hword)
  number := fun _ hchars c hc =>
    have hbounds := bounds_of_isNumberChar (hchars c hc)
    ⟨Nat.le_trans (by decide) hbounds.1, fun _ => hbounds.2⟩
  string := fun _ _ hc => bounds_of_mem_stringText hc
  itemSeparator := hitem
  keySeparator := hkey

/-! ### Outside the string literals -/

/-- Where a scan of a text stands. -/
inductive Place where
  /-- Outside all string literals. -/
  | outside
  /-- In a string literal. -/
  | inside
  /-- In a string literal, right behind a backslash. -/
  | escaped
  deriving DecidableEq

/-- The characters outside the string literals, from where a scan stands. -/
def bareFrom : Place → Text → Text
  | _, [] => []
  | .outside, c :: text => if c = '"' then bareFrom .inside text else c :: bareFrom .outside text
  | .inside, c :: text =>
    if c = '"' then bareFrom .outside text
    else if c = '\\' then bareFrom .escaped text
    else bareFrom .inside text
  | .escaped, _ :: text => bareFrom .inside text

/-- The characters of a text outside its string literals. -/
def bare (text : Text) : Text := bareFrom .outside text

theorem bare_append_of_not_mem {front : Text} (h : '"' ∉ front) (rest : Text) :
    bare (front ++ rest) = front ++ bare rest := by
  induction front with
  | nil => rfl
  | cons c front ih =>
    rw [List.mem_cons, not_or] at h
    obtain ⟨hc, hfront⟩ := h
    show (if c = '"' then _ else c :: bare (front ++ rest)) = _
    rw [if_neg (Ne.symm hc), ih hfront]
    rfl

/-- The scan passes through the text without leaving a literal. -/
def StaysInside (text : Text) : Prop :=
  ∀ rest, bareFrom .inside (text ++ rest) = bareFrom .inside rest

theorem StaysInside.append {front back : Text} (hfront : StaysInside front)
    (hback : StaysInside back) : StaysInside (front ++ back) := by
  intro rest
  rw [List.append_assoc, hfront, hback]

theorem staysInside_escape (c : Char) : StaysInside ['\\', c] := fun _ => rfl

theorem staysInside_singleton {c : Char} (hquote : c ≠ '"') (hbackslash : c ≠ '\\') :
    StaysInside [c] := by
  intro rest
  show (if c = '"' then _ else if c = '\\' then _ else bareFrom .inside rest) = _
  rw [if_neg hquote, if_neg hbackslash]

theorem staysInside_hexCode (width n : Nat) : StaysInside (Text.hexCode width n) := by
  induction width generalizing n with
  | zero => exact fun _ => rfl
  | succ width ih =>
    have hdigit : ∀ m < 16, Text.hexDigit m ≠ '"' ∧ Text.hexDigit m ≠ '\\' := by decide
    obtain ⟨hquote, hbackslash⟩ := hdigit (n % 16) (Nat.mod_lt n (by decide))
    exact (ih (n / 16)).append (staysInside_singleton hquote hbackslash)

theorem staysInside_unitEscape (unit : Nat) : StaysInside (unitEscape unit) :=
  (staysInside_escape 'u').append (staysInside_hexCode 4 unit)

theorem staysInside_codeEscape (c : Char) : StaysInside (codeEscape c) := by
  unfold codeEscape
  split
  · exact staysInside_unitEscape _
  · exact (staysInside_unitEscape _).append (staysInside_unitEscape _)

/-- No character of a string ends its literal, for what could end it is escaped. -/
theorem staysInside_stringChar (asciiOnly : Bool) (c : Char) :
    StaysInside (stringChar asciiOnly c) := by
  unfold stringChar
  split
  · exact staysInside_escape c
  · next hspecial =>
    simp only [Bool.or_eq_true, decide_eq_true_eq, not_or] at hspecial
    split
    · exact staysInside_escape 'b'
    split
    · exact staysInside_escape 'f'
    split
    · exact staysInside_escape 'n'
    split
    · exact staysInside_escape 'r'
    split
    · exact staysInside_escape 't'
    split
    · exact staysInside_codeEscape c
    · exact staysInside_singleton hspecial.1 hspecial.2

theorem staysInside_flatMap (asciiOnly : Bool) (value : Text) :
    StaysInside (value.flatMap (stringChar asciiOnly)) := by
  induction value with
  | nil => exact fun _ => rfl
  | cons c value ih =>
    rw [List.flatMap_cons]
    exact (staysInside_stringChar asciiOnly c).append ih

/-- The text of a string is a literal, and leaves nothing outside. -/
theorem bare_stringText_append (asciiOnly : Bool) (value rest : Text) :
    bare (stringText asciiOnly value ++ rest) = bare rest := by
  show bareFrom .inside (value.flatMap (stringChar asciiOnly) ++ ['"'] ++ rest) = _
  rw [List.append_assoc, staysInside_flatMap]
  rfl

/-- A character that is neither white space nor a quote. -/
def isSolid (c : Char) : Bool := c != '"' && !Text.isBlank c

theorem isSolid_iff {c : Char} : isSolid c = true ↔ c ≠ '"' ∧ Text.isBlank c = false := by
  rw [isSolid, Bool.and_eq_true, bne_iff_ne, Bool.not_eq_true']

/-- The text leaves no white space outside literals, whatever is written behind it. -/
def IsTight (text : Text) : Prop :=
  ∃ outer, (∀ c ∈ outer, Text.isBlank c = false) ∧ ∀ rest, bare (text ++ rest) = outer ++ bare rest

theorem isTight_of_all {text : Text} (h : text.all isSolid = true) : IsTight text := by
  have hchars : ∀ c ∈ text, c ≠ '"' ∧ Text.isBlank c = false :=
    fun c hc => isSolid_iff.1 (List.all_eq_true.1 h c hc)
  have hquote : '"' ∉ text := fun hmem => (hchars _ hmem).1 rfl
  exact ⟨text, fun c hc => (hchars c hc).2, bare_append_of_not_mem hquote⟩

theorem isSolid_of_isNumberChar {c : Char} (h : isNumberChar c = true) : isSolid c = true := by
  obtain ⟨hlow, hhigh⟩ := bounds_of_isNumberChar h
  rw [isSolid_iff]
  constructor
  · rintro rfl
    exact absurd hlow (by decide)
  · -- no white space is printable ASCII, except for the space
    by_contra hblank
    simp only [Text.isBlank, Bool.not_eq_false, Bool.or_eq_true, Bool.and_eq_true,
      decide_eq_true_eq, beq_iff_eq] at hblank
    omega

theorem holdsOfParts_isTight {style : Style} (hitem : IsTight style.itemSeparator)
    (hkey : IsTight style.keySeparator) : HoldsOfParts style IsTight where
  append := by
    rintro front back ⟨outer, houter, hfront⟩ ⟨more, hmore, hback⟩
    refine ⟨outer ++ more, List.forall_mem_append.2 ⟨houter, hmore⟩, fun rest => ?_⟩
    rw [List.append_assoc, hfront, hback, List.append_assoc]
  mark := by
    intro c hc
    have hmarks : ['[', ']', '\x7b', '\x7d'].all isSolid = true := by decide
    have hmark := List.all_eq_true.1 hmarks c hc
    exact isTight_of_all (List.all_eq_true.2 (List.forall_mem_singleton.2 hmark))
  word := by
    intro word hword
    have hwords : ∀ word ∈ ["null".toList, "true".toList, "false".toList],
        word.all isSolid = true := by decide
    exact isTight_of_all (hwords word hword)
  number := fun _ hchars =>
    isTight_of_all (List.all_eq_true.2 fun c hc => isSolid_of_isNumberChar (hchars c hc))
  string := fun value => ⟨[], List.forall_mem_nil _, bare_stringText_append style.asciiOnly value⟩
  itemSeparator := hitem
  keySeparator := hkey

/-! ### Texts without padding -/

/-- A comma and a colon separate, and nothing stands around them. -/
structure Style.IsCompact (style : Style) : Prop where
  item : style.itemSeparator = [',']
  key : style.keySeparator = [':']

variable {style : Style} {value : Json} {c : Char}

theorem Style.IsCompact.isPadded (h : style.IsCompact) : style.IsPadded where
  item := ⟨[], [], h.item, List.forall_mem_nil _, List.forall_mem_nil _⟩
  key := ⟨[], [], h.key, List.forall_mem_nil _, List.forall_mem_nil _⟩

/-- The text of a value holds no control character, and no more than ASCII if it must not. -/
theorem bounds_of_mem_text (h : style.IsCompact) (hfinite : value.isFinite = true)
    (hc : c ∈ value.text style) : 0x20 ≤ c.toNat ∧ (style.asciiOnly = true → c.toNat ≤ 0x7E) := by
  have hitem : IsInRange style style.itemSeparator := by
    rw [h.item]
    exact isInRange_of_all (by decide)
  have hkey : IsInRange style style.keySeparator := by
    rw [h.key]
    exact isInRange_of_all (by decide)
  exact (holdsOfParts_isInRange hitem hkey).text value hfinite c hc

/-- The text of a value has white space in string literals only. -/
theorem not_isBlank_of_mem_bare_text (h : style.IsCompact) (hfinite : value.isFinite = true)
    (hc : c ∈ bare (value.text style)) : Text.isBlank c = false := by
  have hitem : IsTight style.itemSeparator := by
    rw [h.item]
    exact isTight_of_all (by decide)
  have hkey : IsTight style.keySeparator := by
    rw [h.key]
    exact isTight_of_all (by decide)
  obtain ⟨outer, houter, hbare⟩ := (holdsOfParts_isTight hitem hkey).text value hfinite
  have htext := hbare []
  rw [List.append_nil] at htext
  rw [htext] at hc
  rcases List.mem_append.1 hc with hc | hc
  · exact houter c hc
  · cases hc

/-! ### Texts with a space behind each separator -/

theorem Style.isPadded_spaced : Style.spaced.IsPadded where
  item := ⟨[], [' '], rfl, List.forall_mem_nil _, List.forall_mem_singleton.2 rfl⟩
  key := ⟨[], [' '], rfl, List.forall_mem_nil _, List.forall_mem_singleton.2 rfl⟩

/-- Spaces are the only white space that comes into a text with its separators. -/
theorem space_le_of_mem_text_spaced (hfinite : value.isFinite = true)
    (hc : c ∈ value.text .spaced) : 0x20 ≤ c.toNat :=
  have hitem : IsInRange .spaced Style.spaced.itemSeparator := isInRange_of_all (by decide)
  have hkey : IsInRange .spaced Style.spaced.keySeparator := isInRange_of_all (by decide)
  ((holdsOfParts_isInRange hitem hkey).text value hfinite c hc).1

/-- So control characters, such as those that end a line, do not occur in it. -/
theorem not_mem_text_spaced_of_lt (hfinite : value.isFinite = true) (hc : c.toNat < 0x20) :
    c ∉ value.text .spaced := fun hmem =>
  Nat.not_le_of_lt hc (space_le_of_mem_text_spaced hfinite hmem)

end Json

end SearchFilter
