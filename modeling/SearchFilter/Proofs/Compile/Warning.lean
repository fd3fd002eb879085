import Mathlib.Data.Option.Basic
import SearchFilter.Proofs.Compile.Report
import SearchFilter.Proofs.Text.Quoted

/-!
# What warnings say

A warning, and the error for a token that is refused, show the token in quotes between fixed words.
Both are one line of printable characters, whatever the token holds, and the token is read back from
between the words; so the warnings of a report are its dropped tokens in another form.

* `Text.quotedBetween?_append`: a text comes back from between the words.
* `warnings_eq_iff`: the warnings of two reports are the same exactly if the dropped tokens are.
-/

namespace SearchFilter

namespace Text

/-- One line, on which every character is shown as itself. -/
def IsPlainLine (text : Text) : Prop := ∀ c ∈ text, isPrintable c = true ∧ isLineBreak c = false

theorem isPlainLine_of_all {text : Text} (h : text.all isPrintable = true) : IsPlainLine text :=
  fun c hc =>
    have hprintable := List.all_eq_true.1 h c hc
    ⟨hprintable, isLineBreak_of_isPrintable hprintable⟩

theorem isPlainLine_quoted (text : Text) : IsPlainLine (quoted text) := by
  intro c hc
  have hprintable := isPrintable_of_mem_quoted hc
  exact ⟨hprintable, isLineBreak_of_isPrintable hprintable⟩

/-- The text that stands in quotes between an opening and a closing. -/
def quotedBetween? (opening closing text : Text) : Option Text :=
  if opening.isPrefixOf text then
    match takeQuoted? (text.drop opening.length) with
    | some (shown, rest) => if rest = closing then some shown else none
    | none => none
  else none

theorem quotedBetween?_append (opening closing text : Text) :
    quotedBetween? opening closing (opening ++ quoted text ++ closing) = some text := by
  have hopening : opening.isPrefixOf (opening ++ (quoted text ++ closing)) = true :=
    List.isPrefixOf_iff_prefix.2 (List.prefix_append _ _)
  rw [List.append_assoc, quotedBetween?, if_pos hopening, List.drop_left, takeQuoted?_quoted]
  exact if_pos rfl

/-- Between plain words a quoted text makes a plain line. -/
theorem isPlainLine_append_quoted {opening closing : Text} (hopening : IsPlainLine opening)
    (hclosing : IsPlainLine closing) (text : Text) :
    IsPlainLine (opening ++ quoted text ++ closing) :=
  List.forall_mem_append.2
    ⟨List.forall_mem_append.2 ⟨hopening, isPlainLine_quoted text⟩, hclosing⟩

end Text

/-! ### Warnings -/

/-- The token that a warning is about. -/
def tokenOfWarning? (warning : Text) : Option Text :=
  Text.quotedBetween? "Ignored term that does not parse: ".toList [] warning

theorem tokenOfWarning?_dropWarning (token : Text) :
    tokenOfWarning? (dropWarning token) = some token := by
  have hread := Text.quotedBetween?_append "Ignored term that does not parse: ".toList [] token
  rwa [List.append_nil] at hread

theorem isPlainLine_dropWarning (token : Text) : Text.IsPlainLine (dropWarning token) := by
  unfold dropWarning
  exact List.forall_mem_append.2
    ⟨Text.isPlainLine_of_all (by decide), Text.isPlainLine_quoted token⟩

theorem dropWarning_injective : Function.Injective dropWarning := by
  have hread : tokenOfWarning? ∘ dropWarning = some := funext tokenOfWarning?_dropWarning
  exact Function.Injective.of_comp (hread ▸ Option.some_injective Text)

theorem warnings_of_compileReport {policies : Policies} {settings : RenderSettings}
    {query : Option Text} {report : Report}
    (h : compileReport policies settings query = .ok report) :
    report.warnings = report.droppedTerms.map dropWarning := by
  obtain ⟨run, -, -, -, -, hdropped, hwarnings⟩ := exists_run_of_compileReport h
  rw [hwarnings, hdropped]

/-! ### Refused tokens -/

namespace QueryError

theorem message_of_hint {error : QueryError} {words : Text} (h : error.hint = some words)
    (hne : words ≠ []) : error.message = error.statement ++ " Hint: ".toList ++ words := by
  obtain ⟨c, more, rfl⟩ := List.exists_cons_of_ne_nil hne
  rw [message, h]

/-- The hint for a refused token, which is the same for all of them. -/
def unparsedHint : Text := (unparsedTerm []).hint.getD []

/-- What stands behind the token in the message for a refused token. -/
def unparsedClosing : Text :=
  " has no recognized operator".toList ++ (" Hint: ".toList ++ unparsedHint)

/-- The token that a statement on a refused token is about. -/
def tokenOfStatement? (statement : Text) : Option Text :=
  Text.quotedBetween? "Term ".toList " has no recognized operator".toList statement

/-- The token that a message on a refused token is about. -/
def tokenOfMessage? (message : Text) : Option Text :=
  Text.quotedBetween? "Term ".toList unparsedClosing message

theorem statement_unparsedTerm (token : Text) :
    (unparsedTerm token).statement =
      "Term ".toList ++ Text.quoted token ++ " has no recognized operator".toList := by
  unfold statement
  rfl

theorem message_unparsedTerm (token : Text) :
    (unparsedTerm token).message = "Term ".toList ++ Text.quoted token ++ unparsedClosing := by
  have hhint : (unparsedTerm token).hint = some unparsedHint := rfl
  have hne : unparsedHint ≠ [] := by decide
  rw [message_of_hint hhint hne, statement_unparsedTerm, List.append_assoc, List.append_assoc]
  rfl

theorem tokenOfStatement?_statement (token : Text) :
    tokenOfStatement? (unparsedTerm token).statement = some token := by
  rw [statement_unparsedTerm]
  exact Text.quotedBetween?_append _ _ token

theorem tokenOfMessage?_message (token : Text) :
    tokenOfMessage? (unparsedTerm token).message = some token := by
  rw [message_unparsedTerm]
  exact Text.quotedBetween?_append _ _ token

theorem isPlainLine_statement (token : Text) :
    Text.IsPlainLine (unparsedTerm token).statement := by
  rw [statement_unparsedTerm]
  exact Text.isPlainLine_append_quoted (Text.isPlainLine_of_all (by decide))
    (Text.isPlainLine_of_all (by decide)) token

theorem isPlainLine_message (token : Text) : Text.IsPlainLine (unparsedTerm token).message := by
  rw [message_unparsedTerm]
  exact Text.isPlainLine_append_quoted (Text.isPlainLine_of_all (by decide))
    (Text.isPlainLine_of_all (by decide)) token

end QueryError

/-! ### Reports -/

/-- **Warnings tell dropped tokens apart.** Two reports have the same warnings exactly if they have
the same dropped tokens, for each warning gives its token back; and a warning is one line of
printable characters. The same is true of the words for a refused token, with the hint or without.
-/
theorem warnings_eq_iff {policies policies' : Policies} {settings settings' : RenderSettings}
    {query query' : Option Text} {report other : Report}
    (hreport : compileReport policies settings query = .ok report)
    (hother : compileReport policies' settings' query' = .ok other) :
    (report.warnings = other.warnings ↔ report.droppedTerms = other.droppedTerms) ∧
    report.warnings.map tokenOfWarning? = report.droppedTerms.map some ∧
    (∀ warning ∈ report.warnings, Text.IsPlainLine warning) ∧
    ∀ token, let error := QueryError.unparsedTerm token
      Text.IsPlainLine error.statement ∧ Text.IsPlainLine error.message ∧
        QueryError.tokenOfStatement? error.statement = some token ∧
        QueryError.tokenOfMessage? error.message = some token := by
  have hwarnings := warnings_of_compileReport hreport
  refine ⟨?_, ?_, ?_, fun token => ⟨QueryError.isPlainLine_statement token,
    QueryError.isPlainLine_message token, QueryError.tokenOfStatement?_statement token,
    QueryError.tokenOfMessage?_message token⟩⟩
  · rw [hwarnings, warnings_of_compileReport hother]
    exact (List.map_injective_iff.2 dropWarning_injective).eq_iff
  · rw [hwarnings, List.map_map]
    exact List.map_congr_left fun token _ => tokenOfWarning?_dropWarning token
  · rw [hwarnings, List.forall_mem_map]
    exact fun token _ => isPlainLine_dropWarning token

/-- An escape that is written out in a query, and the control character that it is the escape of;
both marks, a backslash, and escapes of the other lengths. -/
theorem warnings_eq_iff_escapes :
    let rest := " it's\\\"\n\u2028".toList ++ [Char.ofNat 0xE0001]
    ∃ report other, compileReport {} {} (some ("\\x7f".toList ++ rest)) = .ok report ∧
      compileReport {} {} (some ('\x7f' :: rest)) = .ok other ∧
      (report.warnings = other.warnings ↔ report.droppedTerms = other.droppedTerms) ∧
      other.warnings = ["Ignored term that does not parse: '\\x7f'".toList,
        "Ignored term that does not parse: 'it\\'s\\\\\"\\n\\u2028\\U000e0001'".toList] ∧
      report.warnings.head? = some "Ignored term that does not parse: '\\\\x7f'".toList := by
  intro rest
  have hreport : compileReport {} {} (some ("\\x7f".toList ++ rest)) = .ok
      { filter := "\x7b\x7d".toList, document := ⟨[]⟩, terms := []
        droppedTerms := ["\\x7f".toList, rest.tail]
        warnings := [dropWarning "\\x7f".toList, dropWarning rest.tail] } := by
    decide +kernel
  have hother : compileReport {} {} (some ('\x7f' :: rest)) = .ok
      { filter := "\x7b\x7d".toList, document := ⟨[]⟩, terms := []
        droppedTerms := [['\x7f'], rest.tail]
        warnings := [dropWarning ['\x7f'], dropWarning rest.tail] } := by
    decide +kernel
  exact ⟨_, _, hreport, hother, (warnings_eq_iff hreport hother).1, by decide +kernel,
    by decide +kernel⟩

end SearchFilter
