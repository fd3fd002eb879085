import SearchFilter.Command.Invocation
import SearchFilter.Command.Session

/-!
# Running a command line

From arguments and surroundings to an exit code and what is written to the two streams. How env
files are read, how a console shows what is written on it and what the help and the words about a
misuse are is part of the surroundings.
-/

namespace SearchFilter

/-- The version of the program. -/
def version : Text := "0.1.0".toList

/-! ### The manual -/

/-- The texts about the use of the program. -/
structure Manual where
  /-- The help for a command, or else for the program. -/
  help : Option CommandName → Text
  /-- What is written about a misuse. -/
  misuse : UsageError → Text

namespace Manual

/-- The line that shows how the program is called. -/
def usageLine : Text := "Usage: findexpr [OPTIONS] COMMAND [ARGS]...".toList

/-- The help for the program. -/
def programHelp : Text :=
  Output.unlines <| usageLine :: List.map String.toList
    ["",
     "Options:",
     "  --output [table|json]     Form of the output.",
     "  --json                    Alias for --output json.",
     "  -q, --quiet               Suppress non-essential stderr output.",
     "  -v                        Increase verbosity (-v, -vv).",
     "  --dotenv / --no-dotenv    Opt-in .env loading.",
     "  --env-file FILE           Env file to load.",
     "  --version                 Show the version and exit.",
     "  -h, --help                Show this message and exit.",
     "",
     "Commands:",
     "  compile QUERY [--anchored] [--strict] [--json]",
     "  explain QUERY [--anchored] [--strict] [--json]",
     "  version [--json]"]

/-- A manual with one help for all commands, in words of its own (the library `rich_click` makes the
help and the words about a misuse). -/
def brief : Manual where
  help _ := programHelp
  misuse error := Output.unlines [usageLine, "Error: ".toList ++ error.message]

end Manual

/-! ### Runs -/

/-- What a command finds around it. -/
structure Surroundings where
  environment : Environment
  files : Files
  runtimeVersion : Text
  platform : Text
  reader : EnvFile.Reader := .standard
  console : Console := .wide
  manual : Manual := .brief

/-- What a command comes to, but for the time that it took. -/
structure Performance where
  result : CommandResult
  exitCode : Int
  /-- What is shown on the way. -/
  notices : List Notice := []

/-- What a run of the program comes to. -/
structure Outcome where
  exitCode : Int
  streams : Streams

namespace Program

/-- The notices of records, if the verbosity lets them through. -/
def eventNotices (verbosity : Nat) (events : List Event) : List Notice :=
  if verbosity < 2 then [] else events.map .record

/-- The performance of a command that failed (`build_result`). -/
def failed (command : CommandName) (failure : CommandFailure) (notices : List Notice) :
    Performance :=
  let failure := failure.normalize
  { result := { ok := false, command := command.word, error := some failure.info }
    exitCode := failure.exitCode
    notices }

/-- Compiles a query and reports on it (`compile_cmd`, `explain_cmd`); only for compiling do the
report's warnings become warnings of the result. -/
def performQuery (surroundings : Surroundings) (settings : ProgramSettings)
    (command : CommandName) (query : Text) (anchored strict : Bool) : Performance :=
  let session : Session :=
    { dotenv := settings.dotenv, envFile := settings.envFile, reader := surroundings.reader }
  let step := session.resolve surroundings.files surroundings.environment anchored strict
  let notices := step.malformed.map .unread
  match step.outcome with
  | .error failure => failed command failure notices
  | .ok policies =>
    let notices :=
      notices ++ eventNotices settings.verbosity (runQuery policies (some query)).1.events
    match compileReport policies {} (some query) with
    | .error failure => failed command (.ofFailure failure) notices
    | .ok report =>
      { result :=
          { ok := true
            command := command.word
            data := CommandResult.reportJson report
            warnings := if command = .compile then report.warnings else []
            policies := some (CommandResult.namedPolicies policies) }
        exitCode := 0
        notices }

/-- Reports the version of the program and what it runs on (`version_cmd`). -/
def performVersion (surroundings : Surroundings) : Performance :=
  { result :=
      { ok := true
        command := CommandName.version.word
        data := .object [("version".toList, .string version),
          ("pythonVersion".toList, .string surroundings.runtimeVersion),
          ("platform".toList, .string surroundings.platform)] }
    exitCode := 0 }

/-- Performs a command. -/
def perform (surroundings : Surroundings) (settings : ProgramSettings) : Command → Performance
  | .compile query anchored strict =>
    performQuery surroundings settings .compile query anchored strict
  | .explain query anchored strict =>
    performQuery surroundings settings .explain query anchored strict
  | .version => performVersion surroundings

/-- The whole milliseconds between two times in seconds, zero if the second is earlier;
    none if they are too many to count. -/
def milliseconds? (started finished : Binary64) : Option Nat :=
  match (finished.sub started).scale 1000 with
  | .infinite false => none
  | duration => some duration.wholePart

/-- What is written for a performance, and the exit code. A result that cannot be written
    is a failure of its own. -/
def emit (console : Console) (settings : ProgramSettings) (format : Format) (durationMs : Nat)
    (performance : Performance) : Outcome :=
  match Output.emit format settings.quiet { performance.result with durationMs } console with
  | .ok streams => ⟨performance.exitCode, streams⟩
  | .error fault =>
    let failure := CommandFailure.fault fault
    { exitCode := failure.exitCode
      streams := Output.emitFailure console format settings.quiet
        { ok := false, command := performance.result.command, durationMs
          error := some failure.info } }

/-- What a performance comes to once its time is known (`run_command`). A time that cannot be
counted ends the program with nothing written but the notices. -/
def finish (console : Console) (settings : ProgramSettings) (format : Format)
    (durationMs : Option Nat) (performance : Performance) : Outcome :=
  let notices := console.print performance.notices
  match durationMs with
  | none => ⟨1, { stderr := notices }⟩
  | some durationMs =>
    let outcome := emit console settings format durationMs performance
    { outcome with streams := { outcome.streams with stderr := notices ++ outcome.streams.stderr } }

/-- The line for the version. -/
def versionText : Text := Output.unlines ["findexpr, version ".toList ++ version]

/-- What an invocation comes to, if commands take the given time. -/
def outcome (surroundings : Surroundings) (durationMs : Option Nat) : Invocation → Outcome
  | .help command => ⟨0, { stdout := surroundings.manual.help command }⟩
  | .version => ⟨0, { stdout := versionText }⟩
  | .misuse error => ⟨2, { stderr := surroundings.manual.misuse error }⟩
  | .breakdown => ⟨1, {}⟩
  | .run settings format command =>
    finish surroundings.console settings format durationMs
      (perform surroundings settings command)

/-- Runs a command line between two times in seconds. -/
def run (surroundings : Surroundings) (started finished : Binary64) (arguments : List Text) :
    Outcome :=
  outcome surroundings (milliseconds? started finished)
    (Invocation.ofArguments surroundings.files arguments)

end Program

end SearchFilter
