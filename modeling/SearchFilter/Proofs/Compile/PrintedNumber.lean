import SearchFilter.Proofs.Compile.Run
import SearchFilter.Proofs.Json.Characters
import SearchFilter.Proofs.Query.Writing
import SearchFilter.Proofs.Value.Unanchored

/-!
# Numbers that come back

A filter shows a number by the shortest decimal that reads as it, with a point or an exponent, and
this text is a raw value as good as the one that the number came from: it is taken for the same
number, down to the sign of zero. So a number can be copied out of a filter into a query, behind any
name and any symbol, and the filter of that query shows it again.

* `Value.ofRaw_text_number`: a number's text is taken for the number.
* `compileQuery_term`: the filter of a query with one term.
* `ofRaw_printed_number`: a number that a filter shows, as a raw value and in a query.
-/

namespace SearchFilter

namespace Value

variable {x : Binary64}

/-- The text of a finite number is taken for that number. -/
theorem ofRaw_text_number (h : x.isFinite = true) (field : Option Text) :
    ofRaw .unanchored field (x.text .json) = .ok (.number x) := by
  obtain ⟨negative, magnitude, coefficient, exponent, htext, hmagnitude, hvalue⟩ :=
    Json.exists_isMagnitude_number h
  have hnumeral := hmagnitude.isNumeral negative
  rw [← htext] at hnumeral
  have hdigit : HasDigit (x.text .json) := List.any_eq_true.1 hnumeral.any_isDigit
  rw [ofRaw_of_hasDigit field hdigit, toNumber_of_isNumeral field hnumeral, hvalue, if_pos h]
  rfl

/-- A text of the characters of numbers can stand behind every symbol, with nothing in it that
separates tokens. -/
theorem isValueText_of_isNumberChar {text : Text} (hne : text ≠ [])
    (hchars : ∀ c ∈ text, Json.isNumberChar c = true) :
    Term.IsValueText text ∧ ∀ c ∈ text, c ≠ ' ' ∧ c ≠ '"' := by
  -- all that symbols and separators are made of is foreign to numbers
  have hnot : ∀ c, Json.isNumberChar c = false → c ∉ text := by
    intro c hc hmem
    rw [hchars c hmem] at hc
    cases hc
  refine ⟨⟨hne, ⟨hnot _ (by decide), hnot _ (by decide)⟩, ?_, ?_⟩, fun c hc => ⟨?_, ?_⟩⟩
  · exact Text.not_infix_of_not_mem List.mem_cons_self (hnot '!' (by decide))
  · exact fun hhead => hnot '=' (by decide) (List.mem_of_head? hhead)
  · rintro rfl
    exact hnot ' ' (by decide) hc
  · rintro rfl
    exact hnot '"' (by decide) hc

/-- The text of a finite number can stand behind every symbol. -/
theorem isValueText_text_number (h : x.isFinite = true) :
    Term.IsValueText (x.text .json) ∧ ∀ c ∈ x.text .json, c ≠ ' ' ∧ c ≠ '"' := by
  obtain ⟨negative, magnitude, coefficient, exponent, htext, hmagnitude, -⟩ :=
    Json.exists_isMagnitude_number h
  obtain ⟨c, more, hcons, -⟩ := Json.exists_signed_eq_cons hmagnitude negative
  rw [htext]
  refine isValueText_of_isNumberChar ?_ (Json.isNumberChar_signed hmagnitude negative)
  rw [hcons]
  exact List.cons_ne_nil c more

end Value

/-! ### Queries with one term -/

namespace Document

/-- What a field holds that has been constrained once. -/
def entryOf (operator : Operator) (value : Value) : Entry :=
  match operator with
  | .equality => .scalar value
  | .comparison c => .comparisons [(c, value)]

theorem add_empty (constraint : Constraint) :
    empty.add constraint =
      .ok ⟨[(constraint.field, entryOf constraint.operator constraint.value)]⟩ := by
  obtain ⟨field, operator, value⟩ := constraint
  cases operator <;> rfl

/-- The text of a document with one constraint, from the text of its value. -/
def singleText (style : Json.Style) (field : Text) (operator : Operator) (value : Text) : Text :=
  let member (name value : Text) : Text :=
    '\x7b' :: (Json.stringText style.asciiOnly name ++ style.keySeparator ++ value) ++ ['\x7d']
  match operator with
  | .equality => member field value
  | .comparison c => member field (member c.filterKey value)

theorem render_single {settings : RenderSettings} {value : Value}
    (h : value.toJson.isFinite = true) (field : Text) (operator : Operator) :
    render settings ⟨[(field, entryOf operator value)]⟩ =
      .ok (singleText settings.style field operator (value.toJson.text settings.style)) := by
  rw [render_eq_ok_iff]
  cases operator with
  | equality =>
    refine ⟨Or.inr ?_, rfl⟩
    simp [toJson, entryOf, entryJson, Json.isFinite_object_iff, h]
  | comparison c =>
    refine ⟨Or.inr ?_, rfl⟩
    simp [toJson, entryOf, entryJson, Json.isFinite_object_iff, h]

end Document

/-- A query with one term has the filter with one constraint. -/
theorem compileQuery_term {policies : Policies} {name rawValue : Text} {value : Value}
    {operator : Operator} (hname : Term.IsName name) (hraw : Term.IsValueText rawValue)
    (hbare : ∀ c ∈ rawValue, c ≠ ' ' ∧ c ≠ '"')
    (hvalue : Value.ofRaw policies.matching (some name) rawValue = .ok value)
    (settings : RenderSettings) :
    compileQuery policies settings (some (name ++ operator.symbol ++ rawValue)) =
      .ok (Document.singleText settings.style name operator
        (value.toJson.text settings.style)) := by
  have hterm := Term.ofToken?_append hname hraw operator
  have htokens : Query.tokens (name ++ operator.symbol ++ rawValue) =
      [name ++ operator.symbol ++ rawValue] := by
    refine Query.tokens_of_bare ?_ (List.forall_mem_append.2 ⟨hname.bare operator, hbare⟩)
    simp [hname.ne_nil]
  have hdocument : buildDocument policies (some (name ++ operator.symbol ++ rawValue)) =
      .ok ⟨[(name, Document.entryOf operator value)]⟩ := by
    have hstep : Run.document <$> Run.step policies {} (name ++ operator.symbol ++ rawValue) =
        (Document.empty.add ⟨name, operator, value⟩).mapError .query :=
      Run.document_step_of_value hterm hvalue
    -- a field that is new to a document is simply added
    rw [Document.add_empty] at hstep
    rw [buildDocument, runQuery?, Option.getD_some, htokens, Run.run?_cons]
    cases hnext : Run.step policies {} (name ++ operator.symbol ++ rawValue) with
    | error failure =>
      rw [hnext] at hstep
      cases hstep
    | ok next =>
      rw [hnext] at hstep
      exact hstep
  have hfinite : value.toJson.isFinite = true := Value.isFinite_of_ofRaw hvalue
  rw [compileQuery, hdocument]
  show (Document.render settings _).mapError Failure.fault = _
  rw [Document.render_single hfinite]
  rfl

/-- **Numbers come back.** If a raw value is taken for a number where matching is unanchored, then
the text by which a filter shows the number is taken for that very number again, down to the sign of
zero, whatever the field is; and behind any name and any symbol it makes a query whose filter shows
the number by the same text. -/
theorem ofRaw_printed_number {field : Option Text} {raw : Text} {x : Binary64}
    (h : Value.ofRaw .unanchored field raw = .ok (.number x)) (settings : RenderSettings) :
    let printed := (Value.number x).toJson.text settings.style
    (∀ other, Value.ofRaw .unanchored other printed = .ok (.number x)) ∧
    ∀ (name : Text) (operator : Operator) (unparsed : Unparsed), Term.IsName name →
      compileQuery ⟨.unanchored, unparsed⟩ settings (some (name ++ operator.symbol ++ printed)) =
        .ok (Document.singleText settings.style name operator printed) := by
  have hfinite : x.isFinite = true := Value.isFinite_of_ofRaw h
  have hback : ∀ other, Value.ofRaw .unanchored other (x.text .json) = .ok (.number x) :=
    Value.ofRaw_text_number hfinite
  obtain ⟨hraw, hbare⟩ := Value.isValueText_text_number hfinite
  exact ⟨hback, fun name operator unparsed hname =>
    compileQuery_term hname hraw hbare (hback (some name)) settings⟩

/-- A negative zero that is written with white space, more digits and an exponent. -/
theorem ofRaw_printed_number_zero :
    let settings : RenderSettings := {}
    let printed := (Value.number (.zero true)).toJson.text settings.style
    Value.ofRaw .unanchored none " -00e7".toList = .ok (.number (.zero true)) ∧
      printed = "-0.0".toList ∧
      Value.ofRaw .unanchored none printed = .ok (.number (.zero true)) ∧
      compileQuery {} settings (some ("a".toList ++ Operator.equality.symbol ++ printed)) =
        .ok "\x7b\"a\":-0.0\x7d".toList := by
  intro settings printed
  have hraw : Value.ofRaw .unanchored none " -00e7".toList = .ok (.number (.zero true)) := by
    decide +kernel
  obtain ⟨hback, hquery⟩ := ofRaw_printed_number hraw settings
  have hname : Term.IsName "a".toList := ⟨by decide, by simp, by decide⟩
  exact ⟨hraw, by decide +kernel, hback none, hquery _ .equality .drop hname⟩

end SearchFilter
