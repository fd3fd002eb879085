import Mathlib.Data.List.Induction
import Mathlib.Data.List.Nodup
import SearchFilter.Command.Logger

/-!
# Loggers over time

Each time a logger is configured its state is handed out, and a state that was handed out may be
restored at any time, out of order and more than once. What restoring needs is that the handlers of
the state are distinct: they are attached one by one, and a handler that is there already is not
attached again. So every state of a history has to be such, and it is: other handlers are attached
under the same rule, and a configured logger has one handler alone.

The numbers of handlers show that the handler of a configured logger is fresh. All numbers in use
lie below the next one.

A history may give up the states that it restores. It loses nothing to keep them, as the logger does
not depend on that, and then the place of a state stays the same.

* `exists_run_within`: a history that gives states up comes to the logger of a history that keeps
  them.
* `IsSound.run`: what every history keeps.
* `logger_run_restore`: a restored state is the one that was handed out.
* `run_restores`: distinct handlers, restored states, fresh handlers and nested scopes in any
  history.
-/

namespace SearchFilter

/-! ### Handlers of one logger -/

namespace Logger

variable {logger : Logger} {number bound : Nat}

/-- The handlers of a logger are distinct, and their numbers lie below a bound. -/
def IsKnown (number : Nat) (logger : Logger) : Prop :=
  logger.handlers.Nodup ∧ ∀ handler ∈ logger.handlers, handler.id < number

theorem IsKnown.mono (h : logger.IsKnown number) (hle : number ≤ bound) : logger.IsKnown bound := by
  refine ⟨h.1, fun handler hhandler => ?_⟩
  have hid := h.2 handler hhandler
  omega

/-- Only the handlers matter. -/
theorem IsKnown.congr {other : Logger} (h : logger.IsKnown number)
    (hhandlers : other.handlers = logger.handlers) : other.IsKnown number := by
  unfold IsKnown
  rw [hhandlers]
  exact h

theorem isKnown_configure (verbosity : Int) (kind : HandlerKind) (logger : Logger) :
    (logger.configure verbosity ⟨number, kind⟩).IsKnown (number + 1) := by
  unfold IsKnown
  rw [handlers_configure]
  refine ⟨List.nodup_singleton _, fun handler hhandler => ?_⟩
  rw [List.mem_singleton.1 hhandler]
  exact Nat.lt_succ_self number

/-- A handler with the next number is attached behind the others. -/
theorem IsKnown.attach (h : logger.IsKnown number) (kind : HandlerKind) :
    (logger.attach ⟨number, kind⟩).IsKnown (number + 1) := by
  have hfresh : (⟨number, kind⟩ : Handler) ∉ logger.handlers := by
    intro hold
    exact Nat.lt_irrefl number (h.2 _ hold)
  have hhandlers : (logger.attach ⟨number, kind⟩).handlers =
      logger.handlers ++ [⟨number, kind⟩] := by
    rw [Logger.attach, if_neg hfresh]
  unfold IsKnown
  rw [hhandlers]
  refine ⟨h.1.append (List.nodup_singleton _) (List.disjoint_singleton.2 hfresh), ?_⟩
  intro handler hhandler
  rcases List.mem_append.1 hhandler with hold | hnew
  · have hid := h.2 handler hold
    omega
  · rw [List.mem_singleton.1 hnew]
    exact Nat.lt_succ_self number

end Logger

/-- Whether a step configures the logger. -/
def LoggerStep.isConfigure : LoggerStep → Bool
  | configure _ => true
  | _ => false

namespace LoggerHistory

variable {history : LoggerHistory}

/-! ### Histories -/

/-- A step of a history. A state that is restored is not given up, so that the place of a state
among those handed out stays the same, and it can be restored again. -/
def advance (history : LoggerHistory) : LoggerStep → LoggerHistory
  | .restore index => { history.step (.restore index) with saved := history.saved }
  | step => history.step step

/-- A history after more steps. -/
def run (history : LoggerHistory) (steps : List LoggerStep) : LoggerHistory :=
  steps.foldl advance history

theorem run_append (history : LoggerHistory) (steps more : List LoggerStep) :
    history.run (steps ++ more) = (history.run steps).run more :=
  List.foldl_append

theorem run_cons (history : LoggerHistory) (step : LoggerStep) (steps : List LoggerStep) :
    history.run (step :: steps) = (history.advance step).run steps := rfl

/-- A restoring step has nothing to restore, or restores a state that was handed out and gives it
up. -/
theorem step_restore_cases (history : LoggerHistory) (index : Option Nat) :
    history.step (.restore index) = history ∨
      ∃ place saved, history.saved[place]? = some saved ∧
        history.step (.restore index) =
          { history with
            logger := saved.restore history.logger, saved := history.saved.eraseIdx place } := by
  unfold LoggerHistory.step
  dsimp only
  split
  · next saved hplace => exact Or.inr ⟨_, saved, hplace, rfl⟩
  · exact Or.inl rfl

/-- If no state is given up, only the logger changes. -/
theorem advance_restore_cases (history : LoggerHistory) (index : Option Nat) :
    history.advance (.restore index) = history ∨
      ∃ saved ∈ history.saved, history.advance (.restore index) =
        { history with logger := saved.restore history.logger } := by
  have hkeep : history.advance (.restore index) =
      { history.step (.restore index) with saved := history.saved } := rfl
  rw [hkeep]
  rcases history.step_restore_cases index with hsame | ⟨place, saved, hplace, hrestored⟩
  · rw [hsame]
    exact Or.inl rfl
  · rw [hrestored]
    exact Or.inr ⟨saved, List.mem_of_getElem? hplace, rfl⟩

theorem advance_restore_of_getElem? {place : Nat} {saved : Logger}
    (h : history.saved[place]? = some saved) :
    history.advance (.restore (some place)) =
      { history with logger := saved.restore history.logger } := by
  simp only [advance, step, Option.getD_some, h]

/-! ### States that are given up -/

/-- A history is at the same point as another one, which may have more states to restore. -/
structure Within (history other : LoggerHistory) : Prop where
  logger : history.logger = other.logger
  nextId : history.nextId = other.nextId
  saved : history.saved.Sublist other.saved

/-- A step that may give a state up, done where none is given up: the place of the state may be
another one there. -/
theorem Within.exists_run {other : LoggerHistory} (h : history.Within other)
    (step : LoggerStep) : ∃ steps, (history.step step).Within (other.run steps) := by
  obtain ⟨hlogger, hnextId, hsaved⟩ := h
  cases step with
  | configure verbosity =>
    refine ⟨[.configure verbosity], ?_, congrArg (· + 1) hnextId, ?_⟩
    · show history.logger.configure verbosity _ = other.logger.configure verbosity _
      rw [hlogger, hnextId]
    · show (history.saved ++ [history.logger]).Sublist (other.saved ++ [other.logger])
      rw [hlogger]
      exact hsaved.append_right [other.logger]
  | restore index =>
    rcases history.step_restore_cases index with hsame | ⟨place, saved, hplace, hrestored⟩
    · rw [hsame]
      exact ⟨[], hlogger, hnextId, hsaved⟩
    · -- the other history kept the state as well, at a place of its own
      have hmem : saved ∈ other.saved := hsaved.mem (List.mem_of_getElem? hplace)
      obtain ⟨place', hplace'⟩ := List.mem_iff_getElem?.1 hmem
      refine ⟨[.restore (some place')], ?_⟩
      show Within _ (other.advance (.restore (some place')))
      rw [hrestored, advance_restore_of_getElem? hplace', hlogger]
      exact ⟨rfl, hnextId, (List.eraseIdx_sublist _ _).trans hsaved⟩
  | addHandler =>
    refine ⟨[.addHandler], ?_, congrArg (· + 1) hnextId, hsaved⟩
    show history.logger.attach _ = other.logger.attach _
    rw [hlogger, hnextId]
  | setLevel level =>
    exact ⟨[.setLevel level], congrArg (fun logger : Logger => { logger with level }) hlogger,
      hnextId, hsaved⟩
  | setPropagate value =>
    exact ⟨[.setPropagate value],
      congrArg (fun logger : Logger => { logger with propagate := value }) hlogger, hnextId, hsaved⟩

/-- Every history that gives up the states that it restores comes to where some history comes to
that gives up none. -/
theorem exists_run_within (history : LoggerHistory) (steps : List LoggerStep) :
    ∃ kept, (steps.foldl step history).Within (history.run kept) := by
  induction steps using List.reverseRecOn with
  | nil => exact ⟨[], rfl, rfl, List.Sublist.refl _⟩
  | append_singleton steps step ih =>
    obtain ⟨kept, hwithin⟩ := ih
    obtain ⟨more, hnext⟩ := hwithin.exists_run step
    refine ⟨kept ++ more, ?_⟩
    rw [List.foldl_append, run_append]
    exact hnext

/-! ### What histories keep -/

/-- The logger, and every state that was handed out, have distinct handlers with numbers that are
used up. -/
def IsSound (history : LoggerHistory) : Prop :=
  ∀ logger ∈ history.logger :: history.saved, logger.IsKnown history.nextId

/-- A state that was handed out is restored as it was. -/
theorem advance_restore (hsound : history.IsSound) {place : Nat} {saved : Logger}
    (h : history.saved[place]? = some saved) :
    history.advance (.restore (some place)) = { history with logger := saved } := by
  have hdistinct : saved.handlers.Nodup :=
    (hsound saved (List.mem_cons_of_mem _ (List.mem_of_getElem? h))).1
  rw [advance_restore_of_getElem? h, Logger.restore_eq hdistinct]

/-- What one step keeps. -/
theorem IsSound.advance (h : history.IsSound) (step : LoggerStep) :
    (history.advance step).IsSound := by
  obtain ⟨hlogger, hsaved⟩ := List.forall_mem_cons.1 h
  cases step with
  | configure verbosity =>
    have hle : history.nextId ≤ history.nextId + 1 := Nat.le_succ _
    refine List.forall_mem_cons.2 ⟨Logger.isKnown_configure verbosity .console _, ?_⟩
    refine List.forall_mem_append.2 ⟨fun logger hmem => (hsaved logger hmem).mono hle, ?_⟩
    exact List.forall_mem_singleton.2 (hlogger.mono hle)
  | restore index =>
    rcases history.advance_restore_cases index with hsame | ⟨saved, hmem, hrestored⟩
    · rw [hsame]
      exact h
    · rw [hrestored, Logger.restore_eq (hsaved saved hmem).1]
      exact List.forall_mem_cons.2 ⟨hsaved saved hmem, hsaved⟩
  | addHandler =>
    have hle : history.nextId ≤ history.nextId + 1 := Nat.le_succ _
    exact List.forall_mem_cons.2
      ⟨hlogger.attach .null, fun logger hmem => (hsaved logger hmem).mono hle⟩
  | setLevel level => exact List.forall_mem_cons.2 ⟨hlogger.congr rfl, hsaved⟩
  | setPropagate value => exact List.forall_mem_cons.2 ⟨hlogger.congr rfl, hsaved⟩

theorem IsSound.run (h : history.IsSound) (steps : List LoggerStep) :
    (history.run steps).IsSound := by
  induction steps generalizing history with
  | nil => exact h
  | cons step steps ih => exact ih (h.advance step)

/-! ### What was handed out -/

theorem saved_advance (history : LoggerHistory) (step : LoggerStep) :
    (history.advance step).saved =
      history.saved ++ if step.isConfigure then [history.logger] else [] := by
  cases step with
  | configure verbosity => rfl
  | restore index => exact (List.append_nil _).symm
  | addHandler => exact (List.append_nil _).symm
  | setLevel level => exact (List.append_nil _).symm
  | setPropagate value => exact (List.append_nil _).symm

/-- States that were handed out keep their places. -/
theorem saved_prefix_run (history : LoggerHistory) (steps : List LoggerStep) :
    history.saved <+: (history.run steps).saved := by
  induction steps generalizing history with
  | nil => exact List.prefix_rfl
  | cons step steps ih =>
    have hstep : history.saved <+: (history.advance step).saved := by
      rw [saved_advance]
      exact List.prefix_append _ _
    exact hstep.trans (ih _)

/-- One state is handed out for each time that the logger is configured. -/
theorem length_saved_run (history : LoggerHistory) (steps : List LoggerStep) :
    (history.run steps).saved.length =
      history.saved.length + steps.countP LoggerStep.isConfigure := by
  induction steps generalizing history with
  | nil => rfl
  | cons step steps ih =>
    rw [run_cons, ih, saved_advance, List.length_append, List.countP_cons]
    cases step.isConfigure with
    | false =>
      simp only [Bool.false_eq_true, if_false, List.length_nil]
      omega
    | true =>
      simp only [if_true, List.length_singleton]
      omega

theorem nextId_le_advance (history : LoggerHistory) (step : LoggerStep) :
    history.nextId ≤ (history.advance step).nextId := by
  cases step with
  | configure verbosity => exact Nat.le_succ _
  | restore index =>
    rcases history.advance_restore_cases index with hsame | ⟨saved, -, hrestored⟩
    · exact Nat.le_of_eq (congrArg nextId hsame).symm
    · exact Nat.le_of_eq (congrArg nextId hrestored).symm
  | addHandler => exact Nat.le_succ _
  | setLevel level => exact Nat.le_refl _
  | setPropagate value => exact Nat.le_refl _

/-- The numbers of handlers do not go back. -/
theorem nextId_le_run (history : LoggerHistory) (steps : List LoggerStep) :
    history.nextId ≤ (history.run steps).nextId := by
  induction steps generalizing history with
  | nil => exact Nat.le_refl _
  | cons step steps ih => exact Nat.le_trans (history.nextId_le_advance step) (ih _)

/-! ### Restoring -/

/-- Restoring the state that was handed out when the logger was configured brings back the logger of
that moment, whatever happened since. -/
theorem logger_run_restore (hsound : history.IsSound) (verbosity : Int)
    (between : List LoggerStep) :
    (history.run (.configure verbosity ::
      (between ++ [.restore (some history.saved.length)]))).logger = history.logger := by
  let reached := (history.advance (.configure verbosity)).run between
  have hreached : reached.IsSound := (hsound.advance _).run between
  -- the state stands behind all that were handed out before, and stays there
  have hplace : reached.saved[history.saved.length]? = some history.logger := by
    have hprefix := saved_prefix_run (history.advance (.configure verbosity)) between
    rw [saved_advance] at hprefix
    obtain ⟨more, hmore⟩ := hprefix
    show reached.saved[history.saved.length]? = some history.logger
    rw [← hmore]
    simp [LoggerStep.isConfigure]
  show (((history.advance (.configure verbosity)).run
    (between ++ [.restore (some history.saved.length)])).logger = history.logger)
  rw [run_append]
  show (reached.advance (.restore (some history.saved.length))).logger = history.logger
  rw [advance_restore hreached hplace]

/-- The handler of a logger that was just configured is one that no logger of the history had. -/
theorem not_mem_handlers_run (hsound : history.IsSound) {before earlier : List LoggerStep}
    (hearlier : earlier <+: before) (kind : HandlerKind) :
    ⟨(history.run before).nextId, kind⟩ ∉ (history.run earlier).logger.handlers := by
  obtain ⟨between, rfl⟩ := hearlier
  intro hmem
  have hused := ((hsound.run earlier) _ List.mem_cons_self).2 _ hmem
  have hle := nextId_le_run (history.run earlier) between
  rw [← run_append] at hle
  exact absurd hused (Nat.not_lt.2 hle)

/-- Scopes behind and within one another, where so many states were handed out before. At its start
a scope configures the logger, and at its end it restores the state that it was handed. -/
inductive IsNested : Nat → List LoggerStep → Prop where
  | nil (count : Nat) : IsNested count []
  | scope {count : Nat} {inner rest : List LoggerStep} (verbosity : Int)
    (hinner : IsNested (count + 1) inner)
    (hrest : IsNested (count + 1 + inner.countP LoggerStep.isConfigure) rest) :
    IsNested count (.configure verbosity :: (inner ++ [.restore (some count)]) ++ rest)

/-- Nested scopes leave the logger as it was. -/
theorem IsNested.logger_run {count : Nat} {steps : List LoggerStep} (h : IsNested count steps)
    (hsound : history.IsSound) (hcount : history.saved.length = count) :
    (history.run steps).logger = history.logger := by
  induction h generalizing history with
  | nil count => rfl
  | @scope count inner rest verbosity _ _ _ ih =>
    subst hcount
    let scope : List LoggerStep :=
      .configure verbosity :: (inner ++ [.restore (some history.saved.length)])
    have hscope : (history.run scope).logger = history.logger :=
      logger_run_restore hsound verbosity inner
    have hlength : (history.run scope).saved.length =
        history.saved.length + 1 + inner.countP LoggerStep.isConfigure := by
      have hcount : scope.countP LoggerStep.isConfigure =
          inner.countP LoggerStep.isConfigure + 1 := by
        simp [scope, List.countP_cons, LoggerStep.isConfigure]
      rw [length_saved_run, hcount]
      omega
    show (history.run (scope ++ rest)).logger = history.logger
    rw [run_append, ih (hsound.run scope) hlength, hscope]

/-- From a logger with distinct handlers, and whatever steps led up to a moment: the handlers are
distinct; a state handed out at that moment is restored, after any further steps, as the logger of
that moment; a logger that is configured then has one handler, which no logger had before, and
passes nothing on; and nested scopes end in the logger that they began with. -/
theorem run_restores (logger : Logger) (nextId : Nat) (hdistinct : logger.handlers.Nodup)
    (hunused : ∀ handler ∈ logger.handlers, handler.id < nextId) (before : List LoggerStep) :
    let start : LoggerHistory := { logger, nextId }
    let reached := start.run before
    reached.logger.handlers.Nodup ∧
    (∀ verbosity between,
      (reached.run (.configure verbosity ::
        (between ++ [.restore (some reached.saved.length)]))).logger = reached.logger) ∧
    (∀ verbosity,
      let configured := (reached.advance (.configure verbosity)).logger
      ∃ fresh, configured.handlers = [fresh] ∧ configured.propagate = false ∧
        ∀ earlier, earlier <+: before → fresh ∉ (start.run earlier).logger.handlers) ∧
    ∀ steps, IsNested reached.saved.length steps →
      (reached.run steps).logger = reached.logger := by
  intro start reached
  -- each step keeps the handlers distinct and their numbers below the next one
  have hstart : start.IsSound := List.forall_mem_singleton.2 ⟨hdistinct, hunused⟩
  have hreached : reached.IsSound := hstart.run before
  refine ⟨(hreached _ List.mem_cons_self).1, fun verbosity between => ?_,
    fun verbosity => ?_, fun steps hnested => ?_⟩
  · exact logger_run_restore hreached verbosity between
  · refine ⟨⟨reached.nextId, .console⟩, ?_, rfl, fun earlier hearlier => ?_⟩
    · exact Logger.handlers_configure verbosity _ reached.logger
    · exact not_mem_handlers_run hstart hearlier .console
  · exact hnested.logger_run hreached rfl

/-- The state of an outer scope is restored while an inner one is open, and with a handler that was
attached in between. -/
theorem run_restores_outOfOrder :
    let logger : Logger :=
      { level := 40, handlers := [⟨0, .null⟩, ⟨1, .console⟩], propagate := false }
    logger.handlers.Nodup ∧ (∀ handler ∈ logger.handlers, handler.id < 2) ∧
      (({ logger, nextId := 2 } : LoggerHistory).run
        [.configure 0, .configure 2, .addHandler, .restore (some 0)]).logger = logger := by
  intro logger
  exact ⟨by decide, by decide,
    (run_restores logger 2 (by decide) (by decide) []).2.1 0 [.configure 2, .addHandler]⟩

end LoggerHistory

end SearchFilter
