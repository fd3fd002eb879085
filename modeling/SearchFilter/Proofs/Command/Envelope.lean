import SearchFilter.Proofs.Command.Performance
import SearchFilter.Proofs.Compile.Report
import SearchFilter.Proofs.Json.Characters

/-!
# The envelope of an answer

What a command that answers a query writes as JSON is one line with one object on it, whatever the
query holds. The object says in four places whether there is an answer, and compiling and explaining
differ in the name of the command and in the warnings alone.

* `isFinite_envelopeOf`: all numbers in an envelope are finite.
* `parts_agree`: the members of an envelope agree with one another and with the exit code.
* `run_json_envelope`: what the two commands write as JSON, and what comes to the standard error.
-/

namespace SearchFilter

/-! ### Finite numbers -/

theorem Json.isFinite_array_map_string (texts : List Text) :
    (array (texts.map string)).isFinite = true := by
  rw [isFinite_array_iff, List.forall_mem_map]
  exact fun text _ => rfl

theorem QueryError.isFinite_details (error : QueryError) :
    (Json.object error.details).isFinite = true := by
  cases error with
  | valueCoercion rawValue kind field =>
    cases field <;> simp [details, Json.isFinite_object_iff]
  | _ => simp [details, Json.isFinite_object_iff, Json.isFinite_array_map_string]

namespace CommandResult

theorem isFinite_optionJson (text : Option Text) : (optionJson text).isFinite = true := by
  cases text with
  | none => rfl
  | some text => rfl

theorem isFinite_policiesJson (policies : List (Text × Text)) :
    (policiesJson policies).isFinite = true := by
  rw [policiesJson, Json.isFinite_object_iff, List.forall_mem_map]
  exact fun pair _ => rfl

theorem isFinite_errorJson {error : ErrorInfo}
    (h : ((error.details.map Json.object).getD .null).isFinite = true) :
    (errorJson error).isFinite = true := by
  simp [errorJson, Json.isFinite_object_iff, isFinite_optionJson, h]

/-- The numbers of a report are values of its terms. -/
theorem isFinite_reportJson {policies : Policies} {settings : RenderSettings}
    {query : Option Text} {report : Report}
    (h : compileReport policies settings query = .ok report) :
    (reportJson report).isFinite = true := by
  obtain ⟨run, hrun, rfl⟩ := compileReport_eq_ok_iff.1 h
  have hdocument : run.document.toJson.isFinite = true := Run.isFinite_document rfl hrun
  have hterms : (Json.array ((run.applied.map reportTerm).map termJson)).isFinite = true := by
    rw [Json.isFinite_array_iff, List.forall_mem_map, List.forall_mem_map]
    intro pair hpair
    have hvalue : pair.2.toJson.isFinite = true :=
      Value.isFinite_of_ofRaw ((Run.accounts_of_run? hrun).values pair hpair none)
    simp [termJson, reportTerm, Json.isFinite_object_iff, hvalue]
  simp only [reportJson, Run.report, textsJson, Json.isFinite_object_iff, List.forall_mem_cons,
    Json.isFinite_string, hdocument, hterms, Json.isFinite_array_map_string, true_and]
  exact List.forall_mem_nil _

end CommandResult

/-! ### One line -/

/-- An outcome that writes a JSON value on a line of its own to the standard output, and notices to
the standard error. -/
structure Outcome.Writes (outcome : Outcome) (exitCode : Int) (value : Json)
    (notices : List Text) : Prop where
  exit : outcome.exitCode = exitCode
  line : ∃ line, outcome.streams.stdout = line ++ ['\n'] ∧ '\n' ∉ line ∧ '\r' ∉ line ∧
    Json.ofText? line = some value
  stderr : outcome.streams.stderr = Output.unlines notices

namespace Program

variable {surroundings : Surroundings} {settings : ProgramSettings} {command : CommandName}
  {query : Text} {anchored strict : Bool}

/-! ### The parts of an envelope -/

/-- The object in which a command gives an answer. -/
def envelope (command : CommandName) (ok : Bool) (data : Json) (warnings : List Text)
    (durationMs : Nat) (policies error : Json) : Json :=
  .object [("ok".toList, .boolean ok), ("command".toList, .string command.word),
    ("data".toList, data), ("warnings".toList, CommandResult.textsJson warnings),
    ("meta".toList, .object [("durationMs".toList, .integer durationMs),
      ("policies".toList, policies)]),
    ("error".toList, error)]

/-- The object for an error of a query or of a setting. -/
def errorObject (error : QueryError) : Json :=
  .object [("type".toList, .string error.typeName), ("message".toList, .string error.statement),
    ("hint".toList, CommandResult.optionJson error.hint),
    ("details".toList, .object error.details)]

/-- The data of an answer. -/
def dataOf : Answer → Json
  | .ok (_, report) => CommandResult.reportJson report
  | .error _ => .null

/-- The warnings of an answer. -/
def warningsOf : Answer → List Text
  | .ok (_, report) => report.warnings
  | .error _ => []

/-- The policies that an answer follows. -/
def policiesOf : Answer → Json
  | .ok (policies, _) => CommandResult.policiesJson (CommandResult.namedPolicies policies)
  | .error _ => .null

/-- The error of an answer, or null if there is none. -/
def errorOf : Answer → Json
  | .ok _ => .null
  | .error failure => CommandResult.errorJson failure.normalize.info

/-- The envelope of an answer; explaining does not repeat the warnings. -/
def envelopeOf (command : CommandName) (durationMs : Nat) (answer : Answer) : Json :=
  envelope command answer.isOk (dataOf answer)
    (if command = .compile then warningsOf answer else []) durationMs (policiesOf answer)
    (errorOf answer)

theorem toJson_resultOf (command : CommandName) (durationMs : Nat) (answer : Answer) :
    ({ resultOf command answer with durationMs } : CommandResult).toJson =
      envelopeOf command durationMs answer := by
  cases answer with
  | ok pair => rfl
  | error failure => cases command <;> rfl

theorem errorJson_query {error : QueryError} (h : error.details ≠ []) :
    CommandResult.errorJson (CommandFailure.query error).normalize.info = errorObject error := by
  have hdetails : error.details.isEmpty = false := List.isEmpty_eq_false_iff.2 h
  show CommandResult.errorJson ⟨_, _, _, if error.details.isEmpty then none else _⟩ = _
  rw [hdetails]
  rfl

namespace IsHindrance

variable {envFile : Text} {failure : CommandFailure}

theorem exitCode_ne_zero (h : IsHindrance envFile failure) : failure.normalize.exitCode ≠ 0 := by
  cases h with
  | query error hdetails => exact (by decide : (2 : Int) ≠ 0)
  | notFound => exact (by decide : (2 : Int) ≠ 0)
  | fault fault => exact (by decide : (1 : Int) ≠ 0)

theorem isFinite_errorJson (h : IsHindrance envFile failure) :
    (CommandResult.errorJson failure.normalize.info).isFinite = true := by
  cases h with
  | query error hdetails =>
    rw [errorJson_query hdetails]
    show (CommandResult.errorJson
      ⟨error.typeName, error.statement, error.hint, some error.details⟩).isFinite = true
    exact CommandResult.isFinite_errorJson error.isFinite_details
  | notFound => exact CommandResult.isFinite_errorJson rfl
  | fault fault => exact CommandResult.isFinite_errorJson rfl

end IsHindrance

theorem isFinite_envelopeOf (command : CommandName) (durationMs : Nat) :
    (envelopeOf command durationMs
      (answer surroundings settings query anchored strict)).isFinite = true := by
  have hparts : (dataOf (answer surroundings settings query anchored strict)).isFinite = true ∧
      (policiesOf (answer surroundings settings query anchored strict)).isFinite = true ∧
      (errorOf (answer surroundings settings query anchored strict)).isFinite = true := by
    cases hanswer : answer surroundings settings query anchored strict with
    | ok pair =>
      exact ⟨CommandResult.isFinite_reportJson (answer_ok_cases hanswer).2,
        CommandResult.isFinite_policiesJson _, rfl⟩
    | error failure => exact ⟨rfl, rfl, (isHindrance_of_answer hanswer).isFinite_errorJson⟩
  obtain ⟨hdata, hpolicies, herror⟩ := hparts
  simp [envelopeOf, envelope, Json.isFinite_object_iff, CommandResult.textsJson,
    Json.isFinite_array_map_string, hdata, hpolicies, herror]

/-! ### What is written -/

/-- The lines at which those statements of the env file start that cannot be parsed. There are none
if no env file is wanted, if there is no regular file at its path, and if the environment turns env
files off. -/
def unreadLines (surroundings : Surroundings) (settings : ProgramSettings) : List Nat :=
  if settings.dotenv then
    match surroundings.files (Path.normalize settings.envFile) with
    | .found (.file content) =>
      if EnvFile.isDisabled surroundings.environment then []
      else
        ((surroundings.reader.statements content).filter
          fun (_, statement) => statement == .malformed).map Prod.fst
    | _ => []
  else []

theorem malformed_resolved :
    (resolved surroundings settings anchored strict).malformed =
      unreadLines surroundings settings := by
  unfold resolved Session.resolve Session.load unreadLines
  cases settings.dotenv with
  | false => rfl
  | true =>
    show (Session.loadFile surroundings.files surroundings.environment settings.envFile
      surroundings.reader).malformed = _
    unfold Session.loadFile
    cases surroundings.files (Path.normalize settings.envFile) with
    | absent => rfl
    | nameTooLong => rfl
    | found node =>
      cases node with
      | directory => rfl
      | file content =>
        cases EnvFile.isDisabled surroundings.environment with
        | true => rfl
        | false => rfl

theorem writes_finish (hverbosity : settings.verbosity < 2) (durationMs : Nat) :
    (finish surroundings.console settings .json (some durationMs)
      (performQuery surroundings settings command query anchored strict)).Writes
        (exitCodeOf (answer surroundings settings query anchored strict))
        (envelopeOf command durationMs (answer surroundings settings query anchored strict))
        ((unreadLines surroundings settings).map Console.unreadNotice) := by
  have hfinite : (envelopeOf command durationMs
      (answer surroundings settings query anchored strict)).isFinite = true :=
    isFinite_envelopeOf command durationMs
  rw [finish_performQuery (Output.emit_json surroundings.console settings.quiet _), toJson_resultOf,
    noticesOf_of_verbosity_lt hverbosity, malformed_resolved, Console.print_unread]
  have hlineFeed := Json.not_mem_text_spaced_of_lt hfinite (show '\n'.toNat < 0x20 by decide)
  have hreturn := Json.not_mem_text_spaced_of_lt hfinite (show '\r'.toNat < 0x20 by decide)
  exact ⟨rfl, ⟨_, rfl, hlineFeed, hreturn, Json.ofText?_text Json.Style.isPadded_spaced hfinite⟩,
    List.append_nil _⟩

/-! ### Runs -/

/-- The members of an envelope agree with one another and with the exit code. -/
theorem parts_agree {envFile : Text} {given : Answer}
    (h : ∀ failure, given = .error failure → IsHindrance envFile failure) :
    (given.isOk = true ↔ exitCodeOf given = 0) ∧
      (exitCodeOf given = 0 ↔ errorOf given = .null) ∧
      (errorOf given = .null ↔ dataOf given ≠ .null) ∧
      (policiesOf given = .null ↔ given.isOk = false) ∧
      ∀ reason, given = .error (.query reason) →
        exitCodeOf given = 2 ∧ errorOf given = errorObject reason := by
  cases given with
  | ok pair =>
    exact ⟨iff_of_true rfl rfl, iff_of_true rfl rfl, iff_of_true rfl nofun,
      iff_of_false nofun nofun, nofun⟩
  | error failure =>
    have hexit : exitCodeOf (.error failure) ≠ 0 := (h failure rfl).exitCode_ne_zero
    refine ⟨iff_of_false nofun hexit, iff_of_false hexit nofun,
      iff_of_false nofun fun hdata => hdata rfl, iff_of_true rfl rfl, fun reason hreason => ?_⟩
    obtain rfl : failure = .query reason := Except.error.inj hreason
    cases h _ rfl with
    | query _ hdetails => exact ⟨rfl, errorJson_query hdetails⟩

/-- **What compiling and explaining write as JSON.** If the verbosity is below two and the time can
be counted, each of the two commands writes one line, and the two envelopes are equal except for the
name of the command and the warnings, of which explaining has none. An envelope has data and
policies if the exit code is zero, and an error otherwise; an error of the query or of a setting is
given in full. The standard error holds one line for each statement of the env file that cannot be
parsed, and nothing else; so it is empty if no env file is wanted, none is there or env files are
turned off. -/
theorem run_json_envelope (surroundings : Surroundings) (started finished : Binary64)
    (settings : ProgramSettings) (query : Text) (anchored strict : Bool) (durationMs : Nat)
    (hverbosity : settings.verbosity < 2)
    (hduration : milliseconds? started finished = some durationMs) :
    let notices := (unreadLines surroundings settings).map Console.unreadNotice
    ∃ (exitCode : Int) (ok : Bool) (data policies error : Json) (warnings : List Text),
      (ok = true ↔ exitCode = 0) ∧ (exitCode = 0 ↔ error = .null) ∧
      (error = .null ↔ data ≠ .null) ∧ (policies = .null ↔ ok = false) ∧
      (∀ reason, answer surroundings settings query anchored strict = .error (.query reason) →
        exitCode = 2 ∧ error = errorObject reason) ∧
      (∀ arguments, Invocation.ofArguments surroundings.files arguments =
          .run settings .json (.compile query anchored strict) →
        (run surroundings started finished arguments).Writes exitCode
          (envelope .compile ok data warnings durationMs policies error) notices) ∧
      (∀ arguments, Invocation.ofArguments surroundings.files arguments =
          .run settings .json (.explain query anchored strict) →
        (run surroundings started finished arguments).Writes exitCode
          (envelope .explain ok data [] durationMs policies error) notices) := by
  intro notices
  have hwrites : ∀ command, (finish surroundings.console settings .json (some durationMs)
      (performQuery surroundings settings command query anchored strict)).Writes
        (exitCodeOf (answer surroundings settings query anchored strict))
        (envelopeOf command durationMs (answer surroundings settings query anchored strict))
        notices := fun command => writes_finish hverbosity durationMs
  have hhindrance : ∀ failure, answer surroundings settings query anchored strict = .error failure →
      IsHindrance settings.envFile failure := fun failure hfailure => isHindrance_of_answer hfailure
  -- the two commands share the answer, whatever it is
  generalize answer surroundings settings query anchored strict = given at hwrites hhindrance ⊢
  obtain ⟨hok, hexit, herror, hpolicies, hreason⟩ := parts_agree hhindrance
  refine ⟨exitCodeOf given, given.isOk, dataOf given, policiesOf given, errorOf given,
    warningsOf given, hok, hexit, herror, hpolicies, hreason, fun arguments hinvocation => ?_,
    fun arguments hinvocation => ?_⟩
  · rw [run, hinvocation, hduration]
    exact hwrites .compile
  · rw [run, hinvocation, hduration]
    exact hwrites .explain

/-- A line break in the query, and a line of the env file that cannot be parsed. -/
theorem run_json_envelope_unread :
    let surroundings : Surroundings :=
      { environment := [], files := fun _ => .found (.file "=x\nA=1\n".toList)
        runtimeVersion := [], platform := [] }
    let settings : ProgramSettings := { json := true, dotenv := true }
    let arguments := ["--dotenv".toList, "--json".toList, "explain".toList, "a:\"b\n\"".toList]
    settings.verbosity < 2 ∧ milliseconds? (.zero false) (.zero false) = some 0 ∧
      ∃ exitCode value,
        (run surroundings (.zero false) (.zero false) arguments).Writes exitCode value
          ["python-dotenv could not parse statement starting at line 1".toList] := by
  intro surroundings settings arguments
  have hduration : milliseconds? (.zero false) (.zero false) = some 0 := by decide +kernel
  have hinvocation : Invocation.ofArguments surroundings.files arguments =
      .run settings .json (.explain "a:\"b\n\"".toList false false) := by rfl
  have hnotices : (unreadLines surroundings settings).map Console.unreadNotice =
      ["python-dotenv could not parse statement starting at line 1".toList] := by decide +kernel
  obtain ⟨exitCode, ok, data, policies, error, warnings, -, -, -, -, -, -, hexplain⟩ :=
    run_json_envelope surroundings (.zero false) (.zero false) settings "a:\"b\n\"".toList false
      false 0 (by decide) hduration
  exact ⟨by decide, hduration, exitCode, _, hnotices ▸ hexplain arguments hinvocation⟩

/-- A line of the env file that cannot be parsed is reported on the standard error, and a time that
cannot be counted leaves the standard output empty. -/
theorem run_json_without_envelope :
    let surroundings : Surroundings :=
      { environment := [], files := fun _ => .found (.file "=x\nA=1\n".toList)
        runtimeVersion := [], platform := [] }
    let noticed := ["--dotenv".toList, "--json".toList, "compile".toList, "a:b".toList]
    let arguments := ["--json".toList, "compile".toList, "a:b".toList]
    Invocation.ofArguments surroundings.files noticed =
        .run { json := true, dotenv := true } .json (.compile "a:b".toList false false) ∧
      (run surroundings (.zero false) (.zero false) noticed).streams.stderr ≠ [] ∧
      Invocation.ofArguments surroundings.files arguments =
        .run { json := true } .json (.compile "a:b".toList false false) ∧
      (run surroundings (.zero false) (.ofDecimal ⟨false, 1, 306⟩) arguments).streams.stdout =
        [] := by
  decide +kernel

end Program

end SearchFilter
