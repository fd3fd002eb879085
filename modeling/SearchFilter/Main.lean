import SearchFilter.Command.Run

/-!
# The command line

The program looks up the variables, the env file and the time, and leaves the rest to `Program`.
-/

namespace SearchFilter

namespace CommandLine

/-- The number of the system's error for a name that is too long; such numbers are given
    with a minus sign, so that they wrap around. -/
def nameTooLongCode : UInt32 := 0 - 36

/-- What a path leads to on this machine. What can be opened and not read is a directory. -/
def lookUp (path : String) : IO Lookup := do
  try
    return .found (.file (← IO.FS.readFile path).toList)
  catch error =>
    match error with
    | .noFileOrDirectory .. => return .absent
    | .invalidArgument _ code _ =>
      return if code = nameTooLongCode then .nameTooLong else .absent
    | _ => return .found .directory

/-- The variables with the given names that are set. -/
def environmentOf (names : List Text) : IO Environment := do
  let entries ← names.filterMapM fun name => do
    return (← IO.getEnv (String.ofList name)).map fun value => (name, value.toList)
  return entries

/-- The time in seconds. -/
def now : IO Binary64 := do
  return .ofDecimal ⟨false, ← IO.monoNanosNow, -9⟩

/-- The path of the env file that a command line names, whether or not it is wanted. -/
def envFileOf (arguments : List Text) : Text :=
  match ProgramOption.all.scan arguments with
  | .ok (options, _) => (options.foldl ProgramSettings.apply {}).envFile
  | .error _ => ProgramSettings.envFile {}

/-- The surroundings of a command line: of the files only the env file matters. -/
def surroundingsOf (arguments : List Text) : IO Surroundings := do
  let path := envFileOf arguments
  let shown := Path.normalize path
  let given ← lookUp (String.ofList path)
  let normal ← lookUp (String.ofList shown)
  let mentioned :=
    match normal with
    | .found (.file content) => EnvFile.mentioned content
    | _ => []
  let environment ← environmentOf
    ([Policies.matchingVariable, Policies.unparsedVariable, EnvFile.disablingVariable] ++ mentioned)
  return { environment
           files := fun asked =>
             if asked = path then given else if asked = shown then normal else .absent
           runtimeVersion := "unknown".toList
           platform := "unknown".toList }

end CommandLine

end SearchFilter

open SearchFilter in
/-- Runs the program and leaves with its exit code. -/
def main (arguments : List String) : IO UInt32 := do
  let arguments := arguments.map String.toList
  let surroundings ← CommandLine.surroundingsOf arguments
  let outcome ←
    match Invocation.ofArguments surroundings.files arguments with
    | .run settings format command => do
      let started ← CommandLine.now
      let performance ← IO.lazyPure fun _ => Program.perform surroundings settings command
      let finished ← CommandLine.now
      pure (Program.finish surroundings.console settings format
        (Program.milliseconds? started finished) performance)
    | invocation => pure (Program.outcome surroundings none invocation)
  (← IO.getStdout).putStr (String.ofList outcome.streams.stdout)
  (← IO.getStderr).putStr (String.ofList outcome.streams.stderr)
  return UInt32.ofNat outcome.exitCode.toNat
