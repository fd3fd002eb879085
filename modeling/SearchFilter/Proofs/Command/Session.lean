import SearchFilter.Command.Session
import SearchFilter.Proofs.Command.EnvFile

/-!
# Sessions over time

Between the steps of a session its surroundings may change, the variables and the files; a history
is a list of moves of the session and of such changes. The attempt to load a file is noted before it
is made. A session whose load fails therefore counts as loaded from then on: it neither tries again
nor fails again, whatever becomes of the file.

* `run_of_loaded`: once loaded, a session stays as it is, and only what happens outside matters.
* `run_of_error`: so it is after a load that failed.
* `recovers_iff`: a session recovers from every failure to load exactly if it has none.
-/

namespace SearchFilter

namespace Session

variable {files : Files} {environment : Environment} {session : Session} {failure : CommandFailure}

/-! ### Single steps -/

/-- A load of a session that wants no file, or has tried to load it, does nothing. -/
theorem load_of_idle (files : Files) (environment : Environment)
    (h : session.dotenv = false ∨ session.loaded = true) :
    session.load files environment = { session, environment, outcome := .ok () } := by
  rcases h with h | h
  · simp [load, h]
  · exact load_of_loaded h

/-- The file of a session is there, may be loaded, has a binding and can be set whole. -/
def Loadable (files : Files) (environment : Environment) (session : Session) : Prop :=
  ∃ content, files (Path.normalize session.envFile) = .found (.file content) ∧
    EnvFile.isDisabled environment = false ∧
      (session.reader.load environment content).outcome = .ok true

theorem outcome_loadFile_iff :
    (loadFile files environment session.envFile session.reader).outcome = .ok true ↔
      Loadable files environment session := by
  unfold loadFile Loadable
  split
  · next hlookup => simp [hlookup]
  · next content hlookup =>
    cases hdisabled : EnvFile.isDisabled environment with
    | true => simp
    | false => simp [hlookup]
  · next _ hother =>
    refine ⟨nofun, ?_⟩
    rintro ⟨content, hlookup, -, -⟩
    exact absurd hlookup (hother content)

/-- The first load of a session that wants its file, told from the load of the file. -/
theorem load_eq_of_pending (hdotenv : session.dotenv = true) (hloaded : session.loaded = false) :
    session.load files environment =
      { session := { session with loaded := true }
        environment := (loadFile files environment session.envFile session.reader).environment
        malformed := (loadFile files environment session.envFile session.reader).malformed
        outcome :=
          match (loadFile files environment session.envFile session.reader).outcome with
          | .error fault => .error (.fault fault)
          | .ok true => .ok ()
          | .ok false => .error (.command (notFound session.envFile)) } := by
  have hpending : ¬ (!session.dotenv || session.loaded) = true := by
    rw [hdotenv, hloaded]
    exact Bool.false_ne_true
  rw [load]
  exact if_neg hpending

/-- What the outcome of reading a file means for the session. -/
theorem load_of_pending (hdotenv : session.dotenv = true) (hloaded : session.loaded = false) :
    (session.load files environment).session = { session with loaded := true } ∧
      ((session.load files environment).outcome = .ok () ↔
        Loadable files environment session) := by
  rw [← outcome_loadFile_iff, load_eq_of_pending hdotenv hloaded]
  refine ⟨rfl, ?_⟩
  cases (loadFile files environment session.envFile session.reader).outcome with
  | error fault => simp
  | ok found => cases found <;> simp

theorem outcome_load_iff (hdotenv : session.dotenv = true) :
    (session.load files environment).outcome = .ok () ↔
      session.loaded = true ∨ Loadable files environment session := by
  cases hloaded : session.loaded with
  | true => simp [load_of_loaded hloaded]
  | false => simp [load_of_pending hdotenv hloaded]

/-- A load that fails is the first one of its session, and the session counts as loaded behind it.
-/
theorem session_load_of_error (h : (session.load files environment).outcome = .error failure) :
    session.loaded = false ∧
      (session.load files environment).session = { session with loaded := true } := by
  cases hdotenv : session.dotenv with
  | false =>
    rw [load_of_idle files environment (Or.inl hdotenv)] at h
    cases h
  | true =>
    cases hloaded : session.loaded with
    | true =>
      rw [load_of_idle files environment (Or.inr hloaded)] at h
      cases h
    | false => exact ⟨rfl, by rw [(load_of_pending hdotenv hloaded).1, hdotenv]⟩

/-- Resolving fails with the failure of the load. -/
theorem outcome_resolve_of_error (anchored strict : Bool)
    (h : (session.load files environment).outcome = .error failure) :
    (session.resolve files environment anchored strict).outcome = .error failure := by
  simp only [resolve, h]

/-- A session that has loaded its file, or did not have to, takes its policies from the variables.
-/
theorem outcome_resolve_of_ok (anchored strict : Bool)
    (h : (session.load files environment).outcome = .ok ()) :
    (session.resolve files environment anchored strict).outcome =
      (Policies.override anchored strict <$>
        Policies.ofEnvironment (session.load files environment).environment).mapError .query := by
  simp only [resolve, h]
  cases Policies.ofEnvironment (session.load files environment).environment with
  | error error => rfl
  | ok policies => rfl

/-- A session that wants no file takes its policies from the variables as they are. -/
theorem outcome_resolve_of_undotted (anchored strict : Bool) (h : session.dotenv = false) :
    (session.resolve files environment anchored strict).outcome =
      (Policies.override anchored strict <$>
        Policies.ofEnvironment environment).mapError .query := by
  have hload : session.load files environment = { session, environment, outcome := .ok () } :=
    load_of_idle files environment (Or.inl h)
  have hresolve := outcome_resolve_of_ok anchored strict (congrArg SessionStep.outcome hload)
  rwa [hload] at hresolve

/-- The variables behind a load of a file are those before, or those that the reader sets. -/
theorem environment_loadFile_cases (files : Files) (environment : Environment) (path : Text)
    (reader : EnvFile.Reader) :
    (loadFile files environment path reader).environment = environment ∨
      ∃ content, files (Path.normalize path) = .found (.file content) ∧
        loadFile files environment path reader = reader.load environment content := by
  unfold loadFile
  split
  · exact Or.inl rfl
  · next content hfile =>
    split
    · exact Or.inl rfl
    · exact Or.inr ⟨content, hfile, rfl⟩
  · exact Or.inl rfl

theorem environment_loadFile_of_missed {path : Text} {reader : EnvFile.Reader}
    (h : (loadFile files environment path reader).outcome = .ok false) :
    (loadFile files environment path reader).environment = environment := by
  rcases environment_loadFile_cases files environment path reader with hsame | ⟨content, -, hload⟩
  · exact hsame
  · rw [hload] at h ⊢
    exact EnvFile.environment_load_of_unbound h

/-- A file that is not found leaves the variables alone. -/
theorem environment_load_of_notFound
    (h : (session.load files environment).outcome = .error (.command (notFound session.envFile))) :
    (session.load files environment).environment = environment := by
  unfold load at h ⊢
  split at h
  · next hidle => rw [if_pos hidle]
  · next hidle =>
    rw [if_neg hidle]
    cases houtcome : (loadFile files environment session.envFile session.reader).outcome with
    | error fault => simp [houtcome] at h
    | ok found =>
      cases found with
      | true => simp [houtcome] at h
      | false => exact environment_loadFile_of_missed houtcome

/-- A binding that cannot be set ends the load; those in front of it are set. -/
example :
    let files : Files := fun _ => .found (.file "A=1\n'x=y'=2\n".toList)
    (load files [] { dotenv := true }).environment = [("A".toList, "1".toList)] := by
  decide

/-! ### Histories -/

/-- A session and what surrounds it. -/
structure World where
  session : Session
  environment : Environment
  files : Files

/-- What may happen next. -/
inductive Move where
  | load
  | resolve (anchored strict : Bool)
  /-- The variables and the files are replaced by others. -/
  | outside (environment : Environment) (files : Files)

/-- Whether a move is a change from outside. -/
def Move.isOutside : Move → Bool
  | outside .. => true
  | _ => false

namespace World

/-- The world after a move. -/
def next (world : World) : Move → World
  | .load =>
    let step := world.session.load world.files world.environment
    { world with session := step.session, environment := step.environment }
  | .resolve anchored strict =>
    let step := world.session.resolve world.files world.environment anchored strict
    { world with session := step.session, environment := step.environment }
  | .outside environment files => { world with environment, files }

/-- The world after moves. -/
def run (world : World) (moves : List Move) : World := moves.foldl next world

variable {world : World}

/-- Resolving changes the world as loading does. -/
theorem next_resolve (world : World) (anchored strict : Bool) :
    world.next (.resolve anchored strict) = world.next .load := rfl

/-- Once loaded, a session changes nothing by its moves. -/
theorem next_of_loaded (h : world.session.loaded = true) {move : Move}
    (hmove : move.isOutside = false) : world.next move = world := by
  have hload : world.next .load = world := by
    rw [next, load_of_loaded h]
  cases move with
  | load => exact hload
  | resolve anchored strict => rw [next_resolve, hload]
  | outside environment files => cases hmove

theorem session_next_of_isOutside (world : World) {move : Move} (hmove : move.isOutside = true) :
    (world.next move).session = world.session := by
  cases move with
  | load => cases hmove
  | resolve anchored strict => cases hmove
  | outside environment files => rfl

/-- Once loaded, a session stays as it is, and a history without its moves is the same. -/
theorem run_of_loaded (h : world.session.loaded = true) (moves : List Move) :
    (world.run moves).session = world.session ∧
      world.run moves = world.run (moves.filter Move.isOutside) := by
  induction moves generalizing world with
  | nil => exact ⟨rfl, rfl⟩
  | cons move moves ih =>
    show ((world.next move).run moves).session = world.session ∧ (world.next move).run moves = _
    cases hmove : move.isOutside with
    | false =>
      rw [next_of_loaded h hmove, List.filter_cons_of_neg (by simp [hmove])]
      exact ih h
    | true =>
      have hsession := session_next_of_isOutside world hmove
      have hloaded : (world.next move).session.loaded = true := hsession.symm ▸ h
      obtain ⟨hkept, hrun⟩ := ih hloaded
      rw [List.filter_cons_of_pos hmove]
      exact ⟨hkept.trans hsession, hrun⟩

end World

/-! ### After a failure -/

/-- A step that changes neither the session nor the variables, so that afterwards a file that is
there is loaded and one that is not there is reported as missing. -/
structure LeavesNoTrace {α : Type} (step : SessionStep α) (session : Session)
    (environment : Environment) : Prop where
  sameSession : step.session = session
  sameEnvironment : step.environment = environment
  loads : ∀ (files : Files) (current : Environment) (content : Text),
    files (Path.normalize session.envFile) = .found (.file content) →
      EnvFile.isDisabled current = false →
        (step.session.load files current).environment =
          (session.reader.load current content).environment
  misses : ∀ (files : Files) (current : Environment),
    files (Path.normalize session.envFile) = .absent →
      (step.session.load files current).outcome = .error (.command (notFound session.envFile))

/-- A session recovers from a failure to load: if the load fails, neither it nor resolving changes
the session or the variables. -/
def Recovers (files : Files) (environment : Environment) (session : Session) : Prop :=
  ∀ failure, (session.load files environment).outcome = .error failure →
    LeavesNoTrace (session.load files environment) session environment ∧
      ∀ anchored strict,
        LeavesNoTrace (session.resolve files environment anchored strict) session environment

/-- A load that fails changes the session, which counts as loaded behind it. -/
theorem recovers_iff_outcome_load :
    Recovers files environment session ↔ (session.load files environment).outcome = .ok () := by
  constructor
  · intro hrecovers
    cases houtcome : (session.load files environment).outcome with
    | ok => rfl
    | error failure =>
      obtain ⟨hloaded, hnoted⟩ := session_load_of_error houtcome
      have hsame := (hrecovers failure houtcome).1.sameSession
      rw [hnoted] at hsame
      rw [← hsame] at hloaded
      cases hloaded
  · intro hok failure hfailed
    rw [hok] at hfailed
    cases hfailed

/-- In every history after a load that failed, the session is the one that has loaded its file. -/
theorem run_of_error (h : (session.load files environment).outcome = .error failure)
    (moves : List Move) :
    let failed := World.next { session, environment, files } .load
    let reached := failed.run moves
    reached = failed.run (moves.filter Move.isOutside) ∧
      reached.session = { session with loaded := true } ∧
      reached.session.load reached.files reached.environment =
        { session := reached.session, environment := reached.environment, outcome := .ok () } := by
  intro failed reached
  have hnoted : failed.session = { session with loaded := true } := (session_load_of_error h).2
  have hloaded : failed.session.loaded = true := by
    rw [hnoted]
  obtain ⟨hsession, hrun⟩ := World.run_of_loaded hloaded moves
  have hreached : reached.session.loaded = true := by
    show (failed.run moves).session.loaded = true
    rw [hsession, hloaded]
  exact ⟨hrun, hsession.trans hnoted, load_of_loaded hreached⟩

/-- A session that wants its file recovers exactly if its load cannot fail: the file was tried
before, or it can be loaded. If the load fails, resolving fails in the same way, and a file that is
not found changes no variable; but behind the failure no move of the session has any effect, and no
load fails, in any history. -/
theorem recovers_iff (files : Files) (environment : Environment) (session : Session)
    (hdotenv : session.dotenv = true) :
    (Recovers files environment session ↔
      session.loaded = true ∨ Loadable files environment session) ∧
    ∀ failure, (session.load files environment).outcome = .error failure →
      (∀ anchored strict,
        (session.resolve files environment anchored strict).outcome = .error failure) ∧
      (failure = .command (notFound session.envFile) →
        (session.load files environment).environment = environment) ∧
      ∀ moves : List Move,
        let failed := World.next { session, environment, files } .load
        let reached := failed.run moves
        reached = failed.run (moves.filter Move.isOutside) ∧
          reached.session = { session with loaded := true } ∧
          reached.session.load reached.files reached.environment =
            { session := reached.session, environment := reached.environment
              outcome := .ok () } := by
  constructor
  · rw [recovers_iff_outcome_load, outcome_load_iff hdotenv]
  · intro failure hfailed
    -- a failed load counts as done, so that no later move of the session has an effect
    refine ⟨fun anchored strict => ?_, fun hmissed => ?_, fun moves => ?_⟩
    · exact outcome_resolve_of_error anchored strict hfailed
    · exact environment_load_of_notFound (hmissed ▸ hfailed)
    · exact run_of_error hfailed moves

/-- A file that is there is loaded, so that there is no failure to recover from. -/
theorem recovers_of_file :
    let files : Files := fun _ => .found (.file "FINDEXPR_MATCHING=anchored\n".toList)
    ({ dotenv := true } : Session).dotenv = true ∧ Recovers files [] { dotenv := true } := by
  intro files
  have hloadable : Loadable files [] { dotenv := true } := ⟨_, rfl, rfl, rfl⟩
  exact ⟨rfl, (recovers_iff files [] { dotenv := true } rfl).1.2 (Or.inr hloadable)⟩

/-- A file that is created behind a load that failed is not loaded, and a file that is still missing
is not reported again. -/
theorem not_recovers_missing :
    let missing : Files := fun _ => .absent
    let created : Files := fun _ => .found (.file "FINDEXPR_MATCHING=anchored\n".toList)
    let step := load missing [] { dotenv := true }
    step.outcome = .error (.command (notFound ".env".toList)) ∧
      (load created [] { dotenv := true }).environment =
        [("FINDEXPR_MATCHING".toList, "anchored".toList)] ∧
      (step.session.load created []).environment = [] ∧
      (step.session.load missing []).outcome = .ok () ∧
      ¬ Recovers missing [] { dotenv := true } := by
  intro missing created step
  refine ⟨rfl, by decide, rfl, rfl, fun hrecovers => ?_⟩
  have hsame : step.session = { dotenv := true } := (hrecovers _ rfl).1.sameSession
  cases hsame

end Session

end SearchFilter
