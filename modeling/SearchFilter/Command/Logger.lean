/-!
# The logger of the program

Configuring the logger puts one fresh handler in the place of all others and hands out the state
before, which can be restored later.

* `handlers_configure`: a configured logger has the fresh handler and no other.
* `restore_eq`: restoring a state whose handlers are distinct brings back exactly that state.
-/

namespace SearchFilter

/-- The kinds of handlers. -/
inductive HandlerKind where
  /-- Writes records to the console. -/
  | console
  /-- Ignores records. -/
  | null
  deriving DecidableEq

/-- A handler of records; the number tells handlers of a kind apart. -/
structure Handler where
  id : Nat
  kind : HandlerKind
  deriving DecidableEq

/-- The state of a logger (`LoggingState`): the least level that it lets through, its handlers, and
whether it passes records on. -/
structure Logger where
  level : Int := 0
  handlers : List Handler := []
  propagate : Bool := true
  deriving DecidableEq

/-- The name of a kind of handler. -/
def HandlerKind.name : HandlerKind → List Char
  | console => "RichHandler".toList
  | null => "NullHandler".toList

namespace Logger

/-- The level for a number of requests to say more (`_level_for`). -/
def levelFor (verbosity : Int) : Int :=
  if 2 ≤ verbosity then 10 else if verbosity = 1 then 20 else 30

/-- Adds a handler behind the others, unless it is there already. -/
def attach (logger : Logger) (handler : Handler) : Logger :=
  if handler ∈ logger.handlers then logger
  else { logger with handlers := logger.handlers ++ [handler] }

/-- Takes a handler away. -/
def detach (logger : Logger) (handler : Handler) : Logger :=
  { logger with handlers := logger.handlers.erase handler }

/-- Takes all handlers away, one by one. -/
def detachAll (logger : Logger) : Logger := logger.handlers.foldl detach logger

/-- A logger with one handler, a level that fits the verbosity, and no passing on
(`configure_logging`). -/
def configure (verbosity : Int) (fresh : Handler) (logger : Logger) : Logger :=
  { logger.detachAll.attach fresh with level := levelFor verbosity, propagate := false }

/-- A logger with its handlers replaced by those of a saved state, one by one, and with the level
and the passing on of that state (`restore_logging`). -/
def restore (saved logger : Logger) : Logger :=
  { saved.handlers.foldl attach logger.detachAll with
    level := saved.level, propagate := saved.propagate }

theorem handlers_foldl_detach (handlers : List Handler) (logger : Logger)
    (h : logger.handlers = handlers) : (handlers.foldl detach logger).handlers = [] := by
  induction handlers generalizing logger with
  | nil => exact h
  | cons handler handlers ih => exact ih _ (by simp [detach, h])

theorem handlers_detachAll (logger : Logger) : logger.detachAll.handlers = [] :=
  handlers_foldl_detach _ logger rfl

/-- A configured logger has the fresh handler and no other. -/
theorem handlers_configure (verbosity : Int) (fresh : Handler) (logger : Logger) :
    (logger.configure verbosity fresh).handlers = [fresh] := by
  simp [configure, attach, handlers_detachAll]

theorem handlers_foldl_attach (handlers : List Handler) (logger : Logger)
    (hdistinct : (logger.handlers ++ handlers).Nodup) :
    (handlers.foldl attach logger).handlers = logger.handlers ++ handlers := by
  induction handlers generalizing logger with
  | nil => simp
  | cons handler handlers ih =>
    have hnew : handler ∉ logger.handlers := by
      intro hold
      exact (List.nodup_append.1 hdistinct).2.2 _ hold _ (by simp) rfl
    have hattached : logger.attach handler =
        { logger with handlers := logger.handlers ++ [handler] } := by simp [attach, hnew]
    rw [List.foldl_cons, hattached, ih]
    · simp
    · simpa using hdistinct

/-- Restoring a state whose handlers are distinct brings back that state, whatever
    happened since. -/
theorem restore_eq {saved : Logger} (hdistinct : saved.handlers.Nodup) (logger : Logger) :
    saved.restore logger = saved := by
  have hhandlers := handlers_foldl_attach saved.handlers logger.detachAll
    (by simpa [handlers_detachAll] using hdistinct)
  rw [handlers_detachAll, List.nil_append] at hhandlers
  simp [restore, hhandlers]

end Logger

/-! ### Histories -/

/-- A logger with the states that were handed out and not restored yet, and the number
    for the next handler. -/
structure LoggerHistory where
  logger : Logger := {}
  nextId : Nat := 0
  saved : List Logger := []
  deriving DecidableEq

/-- What can happen to a logger. -/
inductive LoggerStep where
  | configure (verbosity : Int)
  /-- Restores the state at a place among the saved ones, or the last of them. -/
  | restore (index : Option Nat)
  | addHandler
  | setLevel (level : Int)
  | setPropagate (value : Bool)
  deriving DecidableEq

namespace LoggerHistory

/-- What one step makes of a history. -/
def step (history : LoggerHistory) : LoggerStep → LoggerHistory
  | .configure verbosity =>
    { logger := history.logger.configure verbosity ⟨history.nextId, .console⟩
      nextId := history.nextId + 1
      saved := history.saved ++ [history.logger] }
  | .restore index =>
    let place := index.getD (history.saved.length - 1)
    match history.saved[place]? with
    | some saved =>
      { history with logger := saved.restore history.logger, saved := history.saved.eraseIdx place }
    | none => history
  | .addHandler =>
    { history with
      logger := history.logger.attach ⟨history.nextId, .null⟩
      nextId := history.nextId + 1 }
  | .setLevel level => { history with logger := { history.logger with level } }
  | .setPropagate value => { history with logger := { history.logger with propagate := value } }

end LoggerHistory

end SearchFilter
