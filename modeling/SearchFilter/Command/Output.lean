import SearchFilter.Command.Console
import SearchFilter.Command.Result
import SearchFilter.Json.Display
import SearchFilter.Text.Blank

/-!
# The output of a command

A result is written as JSON on one line, or shown on a console. Data whose terms are no list of
objects cannot be shown.

A stream takes every text: texts hold no character that cannot be encoded, so that writing does not
fail.

* `emit_json`: as JSON, a result is its JSON text on a line of its own, and nothing else.
* `stdout_emit_quiet`: quiet output and ordinary output are the same on the standard output.
* `emit_reportJson`: the report of a query can always be written.
-/

namespace SearchFilter

/-- The form of a command's output. -/
inductive Format where
  | table
  | json
  deriving DecidableEq

/-- What a command writes to its two streams. -/
structure Streams where
  stdout : Text := []
  stderr : Text := []
  deriving DecidableEq

namespace Output

/-! ### Titles and cells -/

/-- The title for a kind of error (`_error_title`). -/
def errorTitle (typeName : Text) : Text :=
  let titles : List (String × String) :=
    [("usage_error", "Usage error"), ("field_conflict", "Conflicting constraints"),
      ("value_coercion", "Invalid value"), ("unparsed_term", "Unparsed term"),
      ("configuration_error", "Configuration error"), ("internal_error", "Internal error")]
  let name := Text.trim typeName
  ((titles.find? fun (known, _) => known.toList = name).map fun (_, title) => title.toList).getD
    "Error".toList

/-- The cell for a value (`_format_value`): its JSON text, which tells numbers, words and strings
apart. -/
def formatValue (value : Json) : Text := value.text .spaced

/-- The name for a value's type (`_value_type`). -/
def valueType : Json → Text
  | .boolean _ => "boolean".toList
  | .number _ => "number".toList
  | _ => "string".toList

/-- The header of the table of terms. -/
def termHeader : List Text :=
  ["field".toList, "op".toList, "raw".toList, "value".toList, "type".toList]

/-- The row for a term, which has to be an object. -/
def termRow (term : Json) : Except Fault (List Text) :=
  let cell (name : String) := ((term.member? name.toList).getD (.string [])).display
  let value := (term.member? "value".toList).getD .null
  match term with
  | .object _ =>
    .ok [cell "field", cell "operator", cell "rawValue", formatValue value, valueType value]
  | other => .error (.noMembers other.typeName)

/-! ### Results -/

/-- The items of a member, none if there is no such member. -/
def itemsOf (data : Json) (name : String) : Except Fault (List Json) :=
  ((data.member? name.toList).getD .null).itemsIfAny

/-- The lines for the terms of a query (`_terms_table`): a table, unless there are none. -/
def termLines (console : Console) (terms : List Json) : Except Fault (List Text) := do
  let rows ← terms.mapM termRow
  return if rows.isEmpty then [] else console.table termHeader rows

/-- The display of a member, empty if there is none. -/
def memberText (data : Json) (name : String) : Text :=
  ((data.member? name.toList).getD (.string [])).display

/-- The lines for a result that succeeded. A filter is never broken. -/
def successLines (console : Console) (command : Text) (data : Json) : Except Fault (List Text) :=
  if command = "compile".toList then .ok [memberText data "filter"]
  else if command = "explain".toList then do
    let table ← termLines console (← itemsOf data "terms")
    let dropped := (← itemsOf data "droppedTerms").flatMap fun token =>
      console.message ("dropped: ".toList ++ token.display)
    return table ++ dropped ++ [memberText data "filter"]
  else if command = "version".toList then .ok (console.message (memberText data "version"))
  else
    match data with
    | .null => .ok []
    | data => .ok [data.text .spaced]

/-- The messages about an error, without its hint if quiet. -/
def errorMessages (quiet : Bool) : Option ErrorInfo → List Text
  | none => ["Error".toList]
  | some error =>
    let statement := errorTitle error.typeName ++ ": ".toList ++ error.message
    match error.hint with
    | some (c :: words) =>
      if quiet then [statement] else [statement, "Hint: ".toList ++ c :: words]
    | _ => [statement]

/-- The messages about warnings (`_emit_warnings`); none if quiet. -/
def warningMessages (quiet : Bool) (warnings : List Text) : List Text :=
  if quiet then [] else warnings.map ("Warning: ".toList ++ ·)

/-- What is written for a result as JSON: its JSON text on a line of its own. -/
def jsonStreams (result : CommandResult) : Streams :=
  { stdout := unlines [result.toJson.text .spaced] }

/-- What is written for a result that failed (`render_result`). -/
def emitFailure (console : Console) (format : Format) (quiet : Bool) (result : CommandResult) :
    Streams :=
  match format with
  | .json => jsonStreams result
  | .table =>
    { stderr := console.print
        ((errorMessages quiet result.error ++ warningMessages quiet result.warnings).map .message) }

/-- What is written for a result that succeeded (`render_result`). -/
def emitSuccess (console : Console) (format : Format) (quiet : Bool) (result : CommandResult) :
    Except Fault Streams :=
  match format with
  | .json => .ok (jsonStreams result)
  | .table =>
    (successLines console result.command result.data).map fun lines =>
      { stdout := unlines lines
        stderr := console.print ((warningMessages quiet result.warnings).map .message) }

/-- What is written for a result (`emit_result`). -/
def emit (format : Format) (quiet : Bool) (result : CommandResult) (console : Console := .wide) :
    Except Fault Streams :=
  if result.ok then emitSuccess console format quiet result
  else .ok (emitFailure console format quiet result)

variable (console : Console)

/-- As JSON, a result is its JSON text on a line of its own, and nothing else. -/
theorem emit_json (quiet : Bool) (result : CommandResult) :
    emit .json quiet result console = .ok ⟨result.toJson.text .spaced ++ ['\n'], []⟩ := by
  unfold emit
  split <;> simp [emitSuccess, emitFailure, jsonStreams, unlines]

/-- Quiet output and ordinary output are the same on the standard output. -/
theorem stdout_emit_quiet (format : Format) (quiet : Bool) (result : CommandResult) :
    (emit format quiet result console).map Streams.stdout =
      (emit format false result console).map Streams.stdout := by
  unfold emit
  split
  · cases format
    · simp only [emitSuccess]
      cases successLines console result.command result.data <;> rfl
    · rfl
  · cases format <;> rfl

theorem termRow_termJson (term : ReportedTerm) :
    ∃ row, termRow (CommandResult.termJson term) = .ok row := ⟨_, rfl⟩

/-- The terms of a report have a table. -/
theorem mapM_termRow_termJson (terms : List ReportedTerm) :
    ∃ rows, (terms.map CommandResult.termJson).mapM termRow = .ok rows := by
  induction terms with
  | nil => exact ⟨[], rfl⟩
  | cons term terms ih =>
    obtain ⟨row, hrow⟩ := termRow_termJson term
    obtain ⟨rows, hrows⟩ := ih
    exact ⟨row :: rows, by rw [List.map_cons, List.mapM_cons, hrow, hrows]; rfl⟩

theorem itemsIfAny_array (items : List Json) : (Json.array items).itemsIfAny = .ok items := by
  cases items <;> rfl

theorem termLines_termJson (terms : List ReportedTerm) :
    ∃ lines, termLines console (terms.map CommandResult.termJson) = .ok lines := by
  obtain ⟨rows, hrows⟩ := mapM_termRow_termJson terms
  exact ⟨_, by rw [termLines, hrows]; rfl⟩

/-- What explaining shows of a report: lines for its terms and its dropped terms, and the filter. -/
theorem successLines_explain (report : Report) :
    ∃ front, successLines console "explain".toList (CommandResult.reportJson report) =
      .ok (front ++ [report.filter]) := by
  have hterms : itemsOf (CommandResult.reportJson report) "terms" =
      .ok (report.terms.map CommandResult.termJson) := itemsIfAny_array _
  have hdropped : itemsOf (CommandResult.reportJson report) "droppedTerms" =
      .ok (report.droppedTerms.map .string) := itemsIfAny_array _
  obtain ⟨lines, hlines⟩ := termLines_termJson console report.terms
  unfold successLines
  rw [if_neg (by decide), if_pos rfl, hterms, hdropped]
  simp only [bind, Except.bind, hlines]
  exact ⟨_, rfl⟩

theorem exists_successLines_reportJson (command : Text) (report : Report) :
    ∃ lines, successLines console command (CommandResult.reportJson report) = .ok lines := by
  by_cases hexplain : command = "explain".toList
  · obtain ⟨front, hfront⟩ := successLines_explain console report
    exact ⟨_, hexplain ▸ hfront⟩
  · unfold successLines
    split
    · exact ⟨_, rfl⟩
    · split
      · exact ⟨_, rfl⟩
      · split <;> exact ⟨_, rfl⟩

/-- The report of a query can always be written. -/
theorem emit_reportJson (format : Format) (quiet : Bool) {result : CommandResult}
    {report : Report} (h : result.data = CommandResult.reportJson report) :
    ∃ streams, emit format quiet result console = .ok streams := by
  obtain ⟨lines, hlines⟩ := exists_successLines_reportJson console result.command report
  unfold emit
  split
  · cases format
    · exact ⟨_, by rw [emitSuccess, h, hlines]; rfl⟩
    · exact ⟨_, rfl⟩
  · exact ⟨_, rfl⟩

end Output

end SearchFilter
