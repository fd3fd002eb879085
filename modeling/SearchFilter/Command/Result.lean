import SearchFilter.Command.Failure
import SearchFilter.Compile

/-!
# The result of a command

The result of a command, and the JSON object that it is written as.
-/

namespace SearchFilter

/-- What a command reports: its data or its error, its warnings, how long it took
and the policies that it followed. -/
structure CommandResult where
  ok : Bool
  command : Text
  data : Json := .null
  warnings : List Text := []
  durationMs : Int := 0
  policies : Option (List (Text × Text)) := none
  error : Option ErrorInfo := none

namespace CommandResult

/-- A text or nothing in JSON. -/
def optionJson : Option Text → Json
  | some text => .string text
  | none => .null

/-- An error in JSON. -/
def errorJson (error : ErrorInfo) : Json :=
  .object [("type".toList, .string error.typeName), ("message".toList, .string error.message),
    ("hint".toList, optionJson error.hint),
    ("details".toList, (error.details.map .object).getD .null)]

/-- A list of texts in JSON. -/
def textsJson (texts : List Text) : Json := .array (texts.map .string)

/-- Policies in JSON. -/
def policiesJson (policies : List (Text × Text)) : Json :=
  .object (policies.map fun (name, word) => (name, .string word))

/-- A result in JSON. All members are there always; what does not apply is null. -/
def toJson (result : CommandResult) : Json :=
  .object [("ok".toList, .boolean result.ok), ("command".toList, .string result.command),
    ("data".toList, result.data), ("warnings".toList, textsJson result.warnings),
    ("meta".toList, .object [("durationMs".toList, .integer result.durationMs),
      ("policies".toList, (result.policies.map policiesJson).getD .null)]),
    ("error".toList, (result.error.map errorJson).getD .null)]

/-- Policies by name (`policies_meta`). -/
def namedPolicies (policies : Policies) : List (Text × Text) :=
  [("matching".toList, policies.matching.word), ("unparsed".toList, policies.unparsed.word)]

/-- A reported term in JSON. -/
def termJson (term : ReportedTerm) : Json :=
  .object [("token".toList, .string term.token), ("field".toList, .string term.field),
    ("operator".toList, .string term.operator.symbol),
    ("rawValue".toList, .string term.rawValue), ("value".toList, term.value.toJson)]

/-- A report in JSON. -/
def reportJson (report : Report) : Json :=
  .object [("filter".toList, .string report.filter), ("document".toList, report.document.toJson),
    ("terms".toList, .array (report.terms.map termJson)),
    ("droppedTerms".toList, textsJson report.droppedTerms),
    ("warnings".toList, textsJson report.warnings)]

end CommandResult

end SearchFilter
