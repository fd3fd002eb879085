import SearchFilter.Command.Run
import SearchFilter.Proofs.Compile.Outcome

/-!
# What performing a query comes to

Compiling a query and explaining it have one answer, the policies and the report or the failure, and
it fixes the result and the exit code of either command. The result can always be written, so that a
run ends as its answer does unless its time cannot be counted.

* `performQuery_eq`: a performance from its answer.
* `finish_performQuery`: what is written for it, and the exit code.
-/

namespace SearchFilter

/-! ### Errors of settings -/

namespace Policies

variable {environment : Environment} {error : QueryError}

theorem exists_configuration_of_readChoice {α : Type} {ofWord? : Text → Option α}
    {allowed : List Text} {default : α} {name : Text}
    (h : readChoice ofWord? allowed default environment name = .error error) :
    ∃ raw, error = .configuration name raw allowed := by
  unfold readChoice at h
  split at h
  · cases h
  · next raw _ =>
    dsimp only at h
    split at h
    · cases h
    · split at h
      · cases h
      · exact ⟨raw, (Except.error.inj h).symm⟩

/-- The variables are refused for a word that is none of the words for a choice. -/
theorem exists_configuration_of_ofEnvironment (h : ofEnvironment environment = .error error) :
    ∃ name raw allowed, error = .configuration name raw allowed := by
  unfold ofEnvironment at h
  cases hmatching : readMatching environment with
  | error other =>
    rw [hmatching] at h
    obtain rfl : other = error := Except.error.inj h
    obtain ⟨raw, hother⟩ := exists_configuration_of_readChoice hmatching
    exact ⟨_, raw, _, hother⟩
  | ok matching =>
    cases hunparsed : readUnparsed environment with
    | error other =>
      rw [hmatching, hunparsed] at h
      obtain rfl : other = error := Except.error.inj h
      obtain ⟨raw, hother⟩ := exists_configuration_of_readChoice hunparsed
      exact ⟨_, raw, _, hother⟩
    | ok unparsed =>
      rw [hmatching, hunparsed] at h
      cases h

end Policies

namespace Program

variable {surroundings : Surroundings} {settings : ProgramSettings} {command : CommandName}
  {query : Text} {anchored strict : Bool}

/-! ### Answers -/

/-- The step in which a session gives a command its policies. -/
def resolved (surroundings : Surroundings) (settings : ProgramSettings) (anchored strict : Bool) :
    SessionStep Policies :=
  Session.resolve surroundings.files surroundings.environment anchored strict
    { dotenv := settings.dotenv, envFile := settings.envFile, reader := surroundings.reader }

/-- What a query comes to: the policies and the report, or why there is none. -/
abbrev Answer := Except CommandFailure (Policies × Report)

/-- The answer to a query, whichever command asks. -/
def answer (surroundings : Surroundings) (settings : ProgramSettings) (query : Text)
    (anchored strict : Bool) : Answer :=
  match (resolved surroundings settings anchored strict).outcome with
  | .error failure => .error failure
  | .ok policies =>
    match compileReport policies {} (some query) with
    | .error failure => .error (.ofFailure failure)
    | .ok report => .ok (policies, report)

theorem answer_of_resolved_error {failure : CommandFailure}
    (h : (resolved surroundings settings anchored strict).outcome = .error failure) :
    answer surroundings settings query anchored strict = .error failure := by
  rw [answer, h]

theorem answer_of_resolved {policies : Policies}
    (h : (resolved surroundings settings anchored strict).outcome = .ok policies) :
    answer surroundings settings query anchored strict =
      ((policies, ·) <$> compileReport policies {} (some query)).mapError .ofFailure := by
  rw [answer, h]
  dsimp only
  cases compileReport policies {} (some query) with
  | error failure => rfl
  | ok report => rfl

/-- A query with an answer has policies, and a report under them. -/
theorem answer_ok_cases {policies : Policies} {report : Report}
    (h : answer surroundings settings query anchored strict = .ok (policies, report)) :
    (resolved surroundings settings anchored strict).outcome = .ok policies ∧
      compileReport policies {} (some query) = .ok report := by
  cases hresolved : (resolved surroundings settings anchored strict).outcome with
  | error failure =>
    rw [answer_of_resolved_error hresolved] at h
    cases h
  | ok found =>
    rw [answer_of_resolved hresolved] at h
    cases hreport : compileReport found {} (some query) with
    | error failure =>
      rw [hreport] at h
      cases h
    | ok compiled =>
      rw [hreport] at h
      obtain ⟨rfl, rfl⟩ := Prod.mk.inj (Except.ok.inj h)
      exact ⟨rfl, hreport⟩

/-- A query has no answer because it has no policies or no report under them. -/
theorem answer_error_cases {failure : CommandFailure}
    (h : answer surroundings settings query anchored strict = .error failure) :
    (resolved surroundings settings anchored strict).outcome = .error failure ∨
      ∃ policies reason, compileReport policies {} (some query) = .error reason ∧
        .ofFailure reason = failure := by
  cases hresolved : (resolved surroundings settings anchored strict).outcome with
  | error other =>
    rw [answer_of_resolved_error hresolved] at h
    obtain rfl := Except.error.inj h
    exact Or.inl rfl
  | ok policies =>
    rw [answer_of_resolved hresolved] at h
    cases hreport : compileReport policies {} (some query) with
    | error reason =>
      rw [hreport] at h
      exact Or.inr ⟨policies, reason, hreport, Except.error.inj h⟩
    | ok report =>
      rw [hreport] at h
      cases h

/-- The result in which a command gives an answer. -/
def resultOf (command : CommandName) : Answer → CommandResult
  | .ok (policies, report) =>
    { ok := true
      command := command.word
      data := CommandResult.reportJson report
      warnings := if command = .compile then report.warnings else []
      policies := some (CommandResult.namedPolicies policies) }
  | .error failure =>
    { ok := false, command := command.word, error := some failure.normalize.info }

/-- The exit code for an answer. -/
def exitCodeOf : Answer → Int
  | .ok _ => 0
  | .error failure => failure.normalize.exitCode

/-- Why a query may have no answer: an error that has details, an env file without bindings, or a
fault. -/
inductive IsHindrance (envFile : Text) : CommandFailure → Prop
  | query (error : QueryError) (h : error.details ≠ []) : IsHindrance envFile (.query error)
  | notFound : IsHindrance envFile (.command (Session.notFound envFile))
  | fault (fault : Fault) : IsHindrance envFile (.fault fault)

theorem isHindrance_of_outcome_load {files : Files} {environment : Environment} {session : Session}
    {failure : CommandFailure} (h : (session.load files environment).outcome = .error failure) :
    IsHindrance session.envFile failure := by
  unfold Session.load at h
  split at h
  · cases h
  · dsimp only at h
    split at h
    · next fault _ =>
      obtain rfl := Except.error.inj h
      exact .fault fault
    · cases h
    · obtain rfl := Except.error.inj h
      exact .notFound

theorem isHindrance_of_outcome_resolved {failure : CommandFailure}
    (h : (resolved surroundings settings anchored strict).outcome = .error failure) :
    IsHindrance settings.envFile failure := by
  unfold resolved Session.resolve at h
  dsimp only at h
  split at h
  · next hload =>
    obtain rfl := Except.error.inj h
    exact isHindrance_of_outcome_load hload
  · split at h
    · next error henvironment =>
      obtain ⟨name, raw, allowed, rfl⟩ :=
        Policies.exists_configuration_of_ofEnvironment henvironment
      obtain rfl := Except.error.inj h
      exact .query _ (List.cons_ne_nil _ _)
    · cases h

theorem isHindrance_ofFailure {policies : Policies} {failure : Failure}
    (h : compileReport policies {} (some query) = .error failure) :
    IsHindrance settings.envFile (.ofFailure failure) := by
  cases failure with
  | fault fault => exact .fault fault
  | query error =>
    refine .query error ?_
    cases isCompileError_of_compileReport h <;> exact List.cons_ne_nil _ _

theorem isHindrance_of_answer {failure : CommandFailure}
    (h : answer surroundings settings query anchored strict = .error failure) :
    IsHindrance settings.envFile failure := by
  rcases answer_error_cases h with hresolved | ⟨policies, reason, hreport, rfl⟩
  · exact isHindrance_of_outcome_resolved hresolved
  · exact isHindrance_ofFailure hreport

/-- The notices on the way to an answer: lines of the env file, and records of the run if there
was one. -/
def noticesOf (surroundings : Surroundings) (settings : ProgramSettings) (query : Text)
    (anchored strict : Bool) : List Notice :=
  let step := resolved surroundings settings anchored strict
  step.malformed.map .unread ++
    match step.outcome with
    | .error _ => []
    | .ok policies =>
      eventNotices settings.verbosity (runQuery policies (some query)).1.events

/-- With a verbosity below two the only notices are those of the env file. -/
theorem noticesOf_of_verbosity_lt (h : settings.verbosity < 2) :
    noticesOf surroundings settings query anchored strict =
      (resolved surroundings settings anchored strict).malformed.map .unread := by
  rw [noticesOf]
  cases (resolved surroundings settings anchored strict).outcome with
  | error failure => exact List.append_nil _
  | ok policies =>
    simp only [eventNotices, if_pos h]
    exact List.append_nil _

theorem performQuery_eq (surroundings : Surroundings) (settings : ProgramSettings)
    (command : CommandName) (query : Text) (anchored strict : Bool) :
    performQuery surroundings settings command query anchored strict =
      { result := resultOf command (answer surroundings settings query anchored strict)
        exitCode := exitCodeOf (answer surroundings settings query anchored strict)
        notices := noticesOf surroundings settings query anchored strict } := by
  unfold performQuery answer noticesOf resolved
  dsimp only
  cases (Session.resolve surroundings.files surroundings.environment anchored strict
    { dotenv := settings.dotenv, envFile := settings.envFile
      reader := surroundings.reader }).outcome with
  | error failure => simp [failed, resultOf, exitCodeOf]
  | ok policies =>
    dsimp only
    cases compileReport policies {} (some query) with
    | error failure => rfl
    | ok report => rfl

/-- A command answers a query, whatever the settings are, or gives the version. -/
theorem perform_cases (surroundings : Surroundings) (command : Command) :
    (∃ name query anchored strict, name ≠ .version ∧
      ∀ settings, perform surroundings settings command =
        performQuery surroundings settings name query anchored strict) ∨ command = .version := by
  cases command with
  | compile query anchored strict =>
    exact Or.inl ⟨.compile, query, anchored, strict, nofun, fun _ => rfl⟩
  | explain query anchored strict =>
    exact Or.inl ⟨.explain, query, anchored, strict, nofun, fun _ => rfl⟩
  | version => exact Or.inr rfl

/-! ### Runs -/

/-- The result for an answer can be written in either format. -/
theorem exists_emit_resultOf (console : Console) (format : Format) (quiet : Bool) (durationMs : Nat)
    (command : CommandName) (answer : Answer) :
    ∃ streams, Output.emit format quiet { resultOf command answer with durationMs } console =
      .ok streams := by
  cases answer with
  | ok pair => exact Output.emit_reportJson console format quiet rfl
  | error failure => exact ⟨_, rfl⟩

/-- A command that answers a query writes its notices and then its result. -/
theorem finish_performQuery {console : Console} {format : Format} {durationMs : Nat}
    {streams : Streams}
    (h : Output.emit format settings.quiet
      { resultOf command (answer surroundings settings query anchored strict) with durationMs }
        console = .ok streams) :
    finish console settings format (some durationMs)
        (performQuery surroundings settings command query anchored strict) =
      { exitCode := exitCodeOf (answer surroundings settings query anchored strict)
        streams :=
          { stdout := streams.stdout
            stderr := console.print (noticesOf surroundings settings query anchored strict) ++
              streams.stderr } } := by
  rw [performQuery_eq, finish]
  simp only [emit, h]

end Program

end SearchFilter
