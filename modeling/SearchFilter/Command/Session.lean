import SearchFilter.Command.EnvFile
import SearchFilter.Command.Failure
import SearchFilter.Command.Path

/-!
# Sessions

A session may ask for an env file. The file is loaded into the variables of the process when a load
or the choice of policies first asks for it; the attempt is noted before it is made.

* `load_of_loaded`: a session that has tried its file changes nothing by a load.
-/

namespace SearchFilter

/-- A session: whether an env file is wanted, its path, how env files are read, and whether the file
has been tried. -/
structure Session where
  dotenv : Bool
  envFile : Text := ".env".toList
  reader : EnvFile.Reader := .standard
  loaded : Bool := false

/-- What a step of a session comes to. -/
structure SessionStep (α : Type) where
  session : Session
  environment : Environment
  /-- The lines of the env file where statements start that could not be read. -/
  malformed : List Nat := []
  outcome : Except CommandFailure α

namespace Session

/-- Loads the file at a path, if it is there and env files are not turned off (`load_dotenv_file`).
The outcome tells whether the file had a binding; what is no regular file has none. -/
def loadFile (files : Files) (environment : Environment) (path : Text)
    (reader : EnvFile.Reader := .standard) : EnvFile.Loaded :=
  match files (Path.normalize path) with
  | .nameTooLong => ⟨environment, [], .error (.pathTooLong (Path.normalize path))⟩
  | .found (.file content) =>
    if EnvFile.isDisabled environment then ⟨environment, [], .ok false⟩
    else reader.load environment content
  | _ => ⟨environment, [], .ok false⟩

/-- The error for an env file without bindings. -/
def notFound (path : Text) : CommandError :=
  { message := "Env file not found: ".toList ++ Path.normalize path
    exitCode := 2
    typeName := "usage_error".toList }

/-- Loads the env file if it is wanted and has not been tried (`load_dotenv_if_requested`). -/
def load (files : Files) (environment : Environment) (session : Session) : SessionStep Unit :=
  if !session.dotenv || session.loaded then { session, environment, outcome := .ok () }
  else
    let loaded := loadFile files environment session.envFile session.reader
    { session := { session with loaded := true }
      environment := loaded.environment
      malformed := loaded.malformed
      outcome :=
        match loaded.outcome with
        | .error fault => .error (.fault fault)
        | .ok true => .ok ()
        | .ok false => .error (.command (notFound session.envFile)) }

/-- The policies for a command (`resolve_policies`): those that the environment chooses, once the
env file is loaded, except where a flag overrides them. -/
def resolve (files : Files) (environment : Environment) (anchored strict : Bool)
    (session : Session) : SessionStep Policies :=
  let step := session.load files environment
  { session := step.session
    environment := step.environment
    malformed := step.malformed
    outcome :=
      match step.outcome with
      | .error failure => .error failure
      | .ok () =>
        match Policies.ofEnvironment step.environment with
        | .error error => .error (.query error)
        | .ok policies => .ok (policies.override anchored strict) }

/-- A session that has tried its file changes nothing by a load. -/
theorem load_of_loaded {files : Files} {environment : Environment} {session : Session}
    (h : session.loaded = true) :
    session.load files environment = { session, environment, outcome := .ok () } := by
  simp [load, h]

end Session

end SearchFilter
