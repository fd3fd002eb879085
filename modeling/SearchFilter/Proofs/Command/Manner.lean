import SearchFilter.Proofs.Command.Line
import SearchFilter.Proofs.Command.Performance

/-!
# Quiet and verbose runs

The options for quiet and for verbose output change neither what a line asks for nor the exit code
nor the standard output. A quiet command leaves its warnings and hints out of the standard error,
and only these; as JSON the result has them all the same. A verbosity below two adds nothing.

* `alike_ofArguments`: lines that differ in these options ask for the same.
* `stderr_emit_table`: what is shown about a result, in full and quietly.
* `run_manner`: what can differ between two runs whose lines differ in these options.
-/

namespace SearchFilter

/-! ### Manner -/

/-- Whether an option is the one for quiet or the one for verbose output. -/
def ProgramOption.isManner (option : ProgramOption) : Bool := option = quiet || option = verbose

/-- Options that are the same, in the same order, except for those for quiet and verbose output. -/
def SameButManner (options options' : List (ProgramOption × Text)) : Prop :=
  options.filter (fun entry => !entry.1.isManner) = options'.filter fun entry => !entry.1.isManner

/-- How often the option for verbose output occurs. -/
def verbosityOf (options : List (ProgramOption × Text)) : Nat := options.countP (·.1 = .verbose)

/-- Whether the option for quiet output occurs. -/
def isQuiet (options : List (ProgramOption × Text)) : Bool := options.any (·.1 = .quiet)

namespace ProgramSettings

/-- Settings that are neither quiet nor verbose, and else the same. -/
def plain (settings : ProgramSettings) : ProgramSettings :=
  { settings with quiet := false, verbosity := 0 }

theorem plain_apply_of_isManner {entry : ProgramOption × Text} (h : entry.1.isManner = true)
    (settings : ProgramSettings) : (settings.apply entry).plain = settings.plain := by
  obtain ⟨option, value⟩ := entry
  cases option with
  | quiet | verbose => rfl
  | output | json | dotenv | noDotenv | envFile | version | help => cases h

theorem plain_apply {entry : ProgramOption × Text} (h : entry.1.isManner = false)
    (settings : ProgramSettings) : (settings.apply entry).plain = settings.plain.apply entry := by
  obtain ⟨option, value⟩ := entry
  cases option with
  | quiet | verbose => cases h
  | output | json | dotenv | noDotenv | envFile | version | help => rfl

/-- Quietness and verbosity apart, the settings are made by the other options. -/
theorem plain_foldl_apply (options : List (ProgramOption × Text)) (settings : ProgramSettings) :
    (options.foldl apply settings).plain =
      (options.filter fun entry => !entry.1.isManner).foldl apply settings.plain := by
  induction options generalizing settings with
  | nil => rfl
  | cons entry options ih =>
    rw [List.foldl_cons, ih]
    cases h : entry.1.isManner with
    | true => rw [plain_apply_of_isManner h, List.filter_cons_of_neg (by simp [h])]
    | false => rw [plain_apply h, List.filter_cons_of_pos (by simp [h]), List.foldl_cons]

theorem plain_of_sameButManner {options options' : List (ProgramOption × Text)}
    (h : SameButManner options options') :
    (options.foldl apply {}).plain = (options'.foldl apply {}).plain := by
  rw [plain_foldl_apply, h, plain_foldl_apply]

theorem quiet_foldl_apply (options : List (ProgramOption × Text)) (settings : ProgramSettings) :
    (options.foldl apply settings).quiet = (settings.quiet || isQuiet options) := by
  induction options generalizing settings with
  | nil => exact (Bool.or_false _).symm
  | cons entry options ih =>
    obtain ⟨option, value⟩ := entry
    rw [List.foldl_cons, ih, isQuiet, isQuiet, List.any_cons]
    cases option <;> simp [apply]

theorem verbosity_foldl_apply (options : List (ProgramOption × Text)) (settings : ProgramSettings) :
    (options.foldl apply settings).verbosity = settings.verbosity + verbosityOf options := by
  induction options generalizing settings with
  | nil => rfl
  | cons entry options ih =>
    obtain ⟨option, value⟩ := entry
    rw [List.foldl_cons, ih, verbosityOf, verbosityOf, List.countP_cons]
    cases option <;> simp only [apply, reduceCtorEq, decide_false, decide_true, if_true, if_false,
      Bool.false_eq_true] <;> omega

/-- The quietness and the verbosity of the settings, from the options. -/
theorem manner_foldl_apply (options : List (ProgramOption × Text)) :
    (options.foldl apply {}).quiet = isQuiet options ∧
      (options.foldl apply {}).verbosity = verbosityOf options := by
  rw [quiet_foldl_apply, verbosity_foldl_apply]
  exact ⟨Bool.false_or _, Nat.zero_add _⟩

theorem find?_filter_of_isManner {p : ProgramOption × Text → Bool}
    (h : ∀ entry, entry.1.isManner = true → p entry = false)
    (options : List (ProgramOption × Text)) :
    (options.filter fun entry => !entry.1.isManner).find? p = options.find? p := by
  rw [List.find?_filter]
  congr 1
  funext entry
  cases hmanner : entry.1.isManner with
  | true => simp [h entry hmanner]
  | false => simp

theorem breaksDown_filter (settings : ProgramSettings) (options : List (ProgramOption × Text)) :
    settings.breaksDown (options.filter fun entry => !entry.1.isManner) =
      settings.breaksDown options := by
  rw [breaksDown, breaksDown, find?_filter_of_isManner]
  rintro ⟨option, value⟩ hmanner
  cases option with
  | quiet | verbose => rfl
  | output | json | dotenv | noDotenv | envFile | version | help => cases hmanner

theorem breaksDown_plain (settings : ProgramSettings) (options : List (ProgramOption × Text)) :
    settings.plain.breaksDown options = settings.breaksDown options := rfl

end ProgramSettings

namespace Invocation

variable {files : Files} {settings settings' : ProgramSettings}

theorem urgent?_filter (options : List (ProgramOption × Text)) :
    urgent? (options.filter fun entry => !entry.1.isManner) = urgent? options := by
  induction options with
  | nil => rfl
  | cons entry options ih =>
    obtain ⟨option, value⟩ := entry
    cases option with
    | quiet | verbose => exact ih
    | help | version => rfl
    | output | json | dotenv | noDotenv | envFile => exact ih

theorem formatOf_plain (settings : ProgramSettings) (options : List (CommandOption × Text)) :
    formatOf settings.plain options = formatOf settings options := rfl

/-- Invocations that differ at most in the settings of a run. -/
inductive Alike (settings settings' : ProgramSettings) : Invocation → Invocation → Prop
  | refl {invocation : Invocation}
      (h : ∀ settings format command, invocation ≠ run settings format command) :
      Alike settings settings' invocation invocation
  | run (format : Format) (command : Command) :
      Alike settings settings' (run settings format command) (run settings' format command)

theorem alike_ofCommand (h : settings.plain = settings'.plain) (name : CommandName)
    (words : List Text) :
    Alike settings settings' (ofCommand settings name words) (ofCommand settings' name words) := by
  unfold ofCommand
  split
  · exact .refl nofun
  · next options arguments _ =>
    split
    · exact .refl nofun
    · split
      · exact .refl nofun
      · rw [← formatOf_plain, h, formatOf_plain]
        exact .run _ _

/-- The words behind the options are read in the same way, whatever the quietness and the verbosity
are. -/
theorem alike_ofRest (h : settings.plain = settings'.plain) (rest : List Text) :
    Alike settings settings' (ofRest rest settings) (ofRest rest settings') := by
  unfold ofRest
  split
  · exact .refl nofun
  · next word words =>
    split
    · exact alike_ofCommand h _ words
    · exact .refl (ofUnknown_ne_run word words)

variable {arguments arguments' rest : List Text} {options options' : List (ProgramOption × Text)}

theorem fareAlike_of_sameButManner (h : SameButManner options options') :
    FareAlike files options options' where
  urgent := by rw [← urgent?_filter, h, urgent?_filter]
  breaksDown := by
    rw [← ProgramSettings.breaksDown_filter, h, ProgramSettings.breaksDown_filter,
      ← ProgramSettings.breaksDown_plain, ProgramSettings.plain_of_sameButManner h,
      ProgramSettings.breaksDown_plain]
  check _ := by
    have hplain := ProgramSettings.plain_of_sameButManner h
    exact ProgramSettings.check_eq_error_congr (congrArg ProgramSettings.output hplain :)
      (congrArg ProgramSettings.envFile hplain :)

/-- **Lines that differ in the options for quiet and verbose output ask for the same**, each under
its own settings. -/
theorem alike_ofArguments (hscan : ProgramOption.all.scan arguments = .ok (options, rest))
    (hscan' : ProgramOption.all.scan arguments' = .ok (options', rest))
    (hsame : SameButManner options options') :
    Alike (options.foldl ProgramSettings.apply {}) (options'.foldl ProgramSettings.apply {})
      (ofArguments files arguments) (ofArguments files arguments') := by
  have hplain : (options.foldl ProgramSettings.apply {}).plain =
      (options'.foldl ProgramSettings.apply {}).plain :=
    ProgramSettings.plain_of_sameButManner hsame
  rw [ofArguments_of_scan_eq hscan, ofArguments_of_scan_eq hscan']
  exact (fareAlike_of_sameButManner hsame).withSettings_rel (motive := Alike _ _) (fun _ => .refl)
    (alike_ofRest hplain rest)

end Invocation

/-! ### Warnings and hints -/

/-- Whether a notice is a warning or a hint of the program. -/
def Notice.isWarningOrHint : Notice → Bool
  | message text => "Warning:".toList.isPrefixOf text || "Hint:".toList.isPrefixOf text
  | _ => false

namespace Output

/-- The notices about a result, in full. -/
def noticesOf (result : CommandResult) : List Notice :=
  ((if result.ok then [] else errorMessages false result.error) ++
    warningMessages false result.warnings).map .message

/-- A message that begins with a title is neither a warning nor a hint. -/
theorem isWarningOrHint_errorTitle_append (typeName rest : Text) :
    (Notice.message (errorTitle typeName ++ rest)).isWarningOrHint = false := by
  unfold errorTitle
  dsimp only
  generalize hfind : List.find? _ _ = found
  cases found with
  | none => rfl
  | some entry =>
    have hmem := List.mem_of_find?_eq_some hfind
    -- the name that was sought is of no account: every title in the table will do
    clear hfind
    simp only [List.mem_cons, List.not_mem_nil, or_false] at hmem
    rcases hmem with rfl | rfl | rfl | rfl | rfl | rfl
    all_goals rfl

theorem isWarningOrHint_hint (hint : Text) :
    (Notice.message ("Hint: ".toList ++ hint)).isWarningOrHint = true := rfl

theorem isWarningOrHint_warning (warning : Text) :
    (Notice.message ("Warning: ".toList ++ warning)).isWarningOrHint = true := rfl

/-- Of the messages about an error, quiet output leaves out the hint. -/
theorem filter_errorMessages (error : Option ErrorInfo) :
    ((errorMessages false error).map Notice.message).filter
        (fun notice => !notice.isWarningOrHint) =
      (errorMessages true error).map .message := by
  cases error with
  | none => rfl
  | some error =>
    have hstatement : (Notice.message
        (errorTitle error.typeName ++ ": ".toList ++ error.message)).isWarningOrHint = false := by
      rw [List.append_assoc]
      exact isWarningOrHint_errorTitle_append _ _
    unfold errorMessages
    dsimp only
    split
    · simp only [Bool.false_eq_true, if_false, if_true, List.map_cons, List.map_nil, List.filter,
        hstatement, isWarningOrHint_hint, Bool.not_true, Bool.not_false]
    · simp only [List.map_cons, List.map_nil, List.filter, hstatement, Bool.not_false]

/-- Quiet output leaves out all warnings. -/
theorem filter_warningMessages (warnings : List Text) :
    ((warningMessages false warnings).map Notice.message).filter
        (fun notice => !notice.isWarningOrHint) =
      (warningMessages true warnings).map .message := by
  refine List.filter_eq_nil_iff.2 fun notice hnotice => ?_
  obtain ⟨message, hmessage, rfl⟩ := List.mem_map.1 hnotice
  obtain ⟨warning, -, rfl⟩ := List.mem_map.1 hmessage
  rw [isWarningOrHint_warning, Bool.not_true]
  exact Bool.false_ne_true

/-- What is written about a result to the standard error in table form: all notices, or, if quiet,
those that are neither warnings nor hints. -/
theorem stderr_emit_table {console : Console} {quiet : Bool} {result : CommandResult}
    {streams : Streams} (h : emit .table quiet result console = .ok streams) :
    streams.stderr = console.print (if quiet then
      (noticesOf result).filter fun notice => !notice.isWarningOrHint else noticesOf result) := by
  have hnotices : (if quiet then (noticesOf result).filter fun notice => !notice.isWarningOrHint
      else noticesOf result) = ((if result.ok then [] else errorMessages quiet result.error) ++
        warningMessages quiet result.warnings).map .message := by
    cases quiet with
    | false => rfl
    | true =>
      rw [if_pos rfl, noticesOf, List.map_append, List.filter_append, filter_warningMessages]
      cases result.ok with
      | true => rfl
      | false => simp [filter_errorMessages]
  -- what is left is how the streams of a result are made
  rw [hnotices]
  unfold emit at h
  cases hok : result.ok with
  | true =>
    rw [hok, if_pos rfl, emitSuccess] at h
    cases hlines : successLines console result.command result.data with
    | error fault =>
      rw [hlines] at h
      cases h
    | ok lines =>
      rw [hlines] at h
      obtain rfl := Except.ok.inj h
      rfl
  | false =>
    rw [hok] at h
    obtain rfl := Except.ok.inj h
    rfl

end Output

namespace Program

variable {surroundings : Surroundings} {settings settings' : ProgramSettings} {command : Command}
  {durationMs : Option Nat}

/-! ### Performances -/

theorem eventNotices_congr {verbosity verbosity' : Nat}
    (h : verbosity = verbosity' ∨ verbosity < 2 ∧ verbosity' < 2) (events : List Event) :
    eventNotices verbosity events = eventNotices verbosity' events := by
  rcases h with rfl | ⟨hlt, hlt'⟩
  · rfl
  · rw [eventNotices, eventNotices, if_pos hlt, if_pos hlt']

theorem resolved_congr (h : settings.plain = settings'.plain) (anchored strict : Bool) :
    resolved surroundings settings anchored strict =
      resolved surroundings settings' anchored strict := by
  show resolved surroundings settings.plain anchored strict = _
  rw [h]
  rfl

theorem answer_congr (h : settings.plain = settings'.plain) (query : Text)
    (anchored strict : Bool) :
    answer surroundings settings query anchored strict =
      answer surroundings settings' query anchored strict := by
  rw [answer, answer, resolved_congr h]

/-- The result and the exit code of a command do not depend on quietness and verbosity. -/
theorem result_perform_congr (h : settings.plain = settings'.plain) (command : Command) :
    (perform surroundings settings command).result =
        (perform surroundings settings' command).result ∧
      (perform surroundings settings command).exitCode =
        (perform surroundings settings' command).exitCode := by
  rcases perform_cases surroundings command with
    ⟨name, query, anchored, strict, -, hperform⟩ | rfl
  · rw [hperform, hperform, performQuery_eq, performQuery_eq, answer_congr h]
    exact ⟨rfl, rfl⟩
  · exact ⟨rfl, rfl⟩

/-- Two verbosities below two lead to the same performance. -/
theorem perform_congr (h : settings.plain = settings'.plain)
    (hverbosity : settings.verbosity = settings'.verbosity ∨
      settings.verbosity < 2 ∧ settings'.verbosity < 2) (command : Command) :
    perform surroundings settings command = perform surroundings settings' command := by
  rcases perform_cases surroundings command with
    ⟨name, query, anchored, strict, -, hperform⟩ | rfl
  · have hnotices : noticesOf surroundings settings query anchored strict =
        noticesOf surroundings settings' query anchored strict := by
      simp only [noticesOf, resolved_congr h, eventNotices_congr hverbosity]
    rw [hperform, hperform, performQuery_eq, performQuery_eq, answer_congr h, hnotices]
  · rfl

theorem exists_emit_perform (surroundings : Surroundings) (settings : ProgramSettings)
    (command : Command) (format : Format) (quiet : Bool) (durationMs : Nat) :
    ∃ streams, Output.emit format quiet
      { (perform surroundings settings command).result with durationMs } surroundings.console =
        .ok streams := by
  rcases perform_cases surroundings command with
    ⟨name, query, anchored, strict, -, hperform⟩ | rfl
  · rw [hperform, performQuery_eq]
    exact exists_emit_resultOf surroundings.console format quiet durationMs name _
  · cases format <;> exact ⟨_, rfl⟩

/-- The notices of a performance are neither warnings nor hints. -/
theorem isWarningOrHint_of_mem_notices {notice : Notice}
    (h : notice ∈ (perform surroundings settings command).notices) :
    notice.isWarningOrHint = false := by
  rcases perform_cases surroundings command with
    ⟨name, query, anchored, strict, -, hperform⟩ | rfl
  · rw [hperform, performQuery_eq] at h
    rcases List.mem_append.1 h with hline | hevent
    · obtain ⟨line, -, rfl⟩ := List.mem_map.1 hline
      rfl
    · -- records come from a run, so there are none without policies, nor below the verbosity
      split at hevent
      · cases hevent
      · unfold eventNotices at hevent
        split at hevent
        · cases hevent
        · obtain ⟨event, -, rfl⟩ := List.mem_map.1 hevent
          rfl
  · cases h

/-! ### Runs -/

/-- All notices of a command in table form: those of its performance, and those about its result if
the time is counted. -/
def allNotices (surroundings : Surroundings) (settings : ProgramSettings) (command : Command)
    (durationMs : Option Nat) : List Notice :=
  (perform surroundings settings command).notices ++
    if durationMs.isSome then Output.noticesOf (perform surroundings settings command).result
    else []

/-- The exit code and the standard output do not depend on the settings, given the result. -/
theorem stdout_finish_congr (console : Console) (format : Format)
    {performance performance' : Performance}
    (hresult : performance.result = performance'.result)
    (hexit : performance.exitCode = performance'.exitCode) :
    (finish console settings format durationMs performance).exitCode =
        (finish console settings' format durationMs performance').exitCode ∧
      (finish console settings format durationMs performance).streams.stdout =
        (finish console settings' format durationMs performance').streams.stdout := by
  cases durationMs with
  | none => exact ⟨rfl, rfl⟩
  | some durationMs =>
    -- writing may fail, but it does so with the same fault, quietly or not
    have hstdout : (Output.emit format settings.quiet
          { performance.result with durationMs } console).map Streams.stdout =
        (Output.emit format settings'.quiet
          { performance.result with durationMs } console).map Streams.stdout :=
      (Output.stdout_emit_quiet console format settings.quiet _).trans
        (Output.stdout_emit_quiet console format settings'.quiet _).symm
    simp only [finish, emit, ← hresult, ← hexit]
    generalize Output.emit format settings.quiet _ _ = written at hstdout ⊢
    generalize Output.emit format settings'.quiet _ _ = written' at hstdout ⊢
    cases written with
    | ok streams =>
      cases written' with
      | ok streams' => exact ⟨rfl, Except.ok.inj hstdout⟩
      | error fault => cases hstdout
    | error fault =>
      cases written' with
      | ok streams' => cases hstdout
      | error fault' =>
        obtain rfl : fault = fault' := Except.error.inj hstdout
        cases format <;> exact ⟨rfl, rfl⟩

theorem finish_congr (h : settings.quiet = settings'.quiet) (console : Console) (format : Format)
    (performance : Performance) :
    finish console settings format durationMs performance =
      finish console settings' format durationMs performance := by
  simp only [finish, emit, h]

theorem finish_json (console : Console) (performance : Performance) :
    finish console settings .json durationMs performance =
      finish console settings' .json durationMs performance := by
  simp only [finish, emit, Output.emit_json]

theorem stderr_finish_perform :
    (finish surroundings.console settings .table durationMs
        (perform surroundings settings command)).streams.stderr =
      surroundings.console.print (if settings.quiet then
        (allNotices surroundings settings command durationMs).filter fun notice =>
          !notice.isWarningOrHint
        else allNotices surroundings settings command durationMs) := by
  have hnotices : (perform surroundings settings command).notices.filter
      (fun notice => !notice.isWarningOrHint) =
        (perform surroundings settings command).notices := by
    refine List.filter_eq_self.2 fun notice hmem => ?_
    rw [isWarningOrHint_of_mem_notices hmem]
    rfl
  -- the notices on the way pass the filter, so it matters only for those about the result
  have hsplit : (if settings.quiet then
      (allNotices surroundings settings command durationMs).filter fun notice =>
        !notice.isWarningOrHint
      else allNotices surroundings settings command durationMs) =
        (perform surroundings settings command).notices ++
          if durationMs.isSome then
            if settings.quiet then
              (Output.noticesOf (perform surroundings settings command).result).filter
                fun notice => !notice.isWarningOrHint
            else Output.noticesOf (perform surroundings settings command).result
          else [] := by
    cases settings.quiet <;> cases durationMs <;>
      simp [allNotices, List.filter_append, hnotices]
  rw [hsplit]
  cases durationMs with
  | none => rw [finish, Option.isSome_none, if_neg Bool.false_ne_true, List.append_nil]
  | some durationMs =>
    obtain ⟨streams, hwritten⟩ := exists_emit_perform surroundings settings command .table
      settings.quiet durationMs
    have hstderr := Output.stderr_emit_table hwritten
    rw [Option.isSome_some, if_pos rfl, Console.print_append]
    simp only [finish, emit, hwritten, hstderr]
    rfl

/-- Invocations that differ in the quietness and the verbosity of their settings. -/
structure DiffersInManner (settings settings' : ProgramSettings)
    (invocation invocation' : Invocation) : Prop where
  plain : settings.plain = settings'.plain
  alike : Invocation.Alike settings settings' invocation invocation'

namespace DiffersInManner

variable {invocation invocation' : Invocation}

theorem stdout_outcome (h : DiffersInManner settings settings' invocation invocation') :
    (outcome surroundings durationMs invocation).exitCode =
        (outcome surroundings durationMs invocation').exitCode ∧
      (outcome surroundings durationMs invocation).streams.stdout =
        (outcome surroundings durationMs invocation').streams.stdout := by
  obtain ⟨hplain, halike⟩ := h
  cases halike with
  | refl => exact ⟨rfl, rfl⟩
  | run format command =>
    obtain ⟨hresult, hexit⟩ : (perform surroundings settings command).result =
        (perform surroundings settings' command).result ∧ _ := result_perform_congr hplain command
    exact stdout_finish_congr surroundings.console format hresult hexit

/-- If the two are equally quiet, or there is no table, only the notices of records can differ. -/
theorem outcome_eq (h : DiffersInManner settings settings' invocation invocation')
    (hrecords : settings.verbosity = settings'.verbosity ∨
      settings.verbosity < 2 ∧ settings'.verbosity < 2)
    (hquiet : settings.quiet = settings'.quiet ∨
      ∀ other command, invocation ≠ .run other .table command) :
    outcome surroundings durationMs invocation = outcome surroundings durationMs invocation' := by
  obtain ⟨hplain, halike⟩ := h
  cases halike with
  | refl => rfl
  | run format command =>
    show finish _ _ _ _ (perform surroundings settings command) =
      finish _ _ _ _ (perform surroundings settings' command)
    rw [perform_congr hplain hrecords]
    rcases hquiet with heq | htable
    · exact finish_congr heq surroundings.console format _
    · cases format with
      | table => exact absurd rfl (htable settings command)
      | json => exact finish_json surroundings.console _

/-- In table form the one that is not quiet shows all notices, and the quiet one those that are
neither warnings nor hints. -/
theorem stderr_outcome {other : ProgramSettings}
    (h : DiffersInManner settings settings' (.run other .table command) invocation')
    (hrecords : settings.verbosity = settings'.verbosity ∨
      settings.verbosity < 2 ∧ settings'.verbosity < 2)
    (hloud : settings.quiet = false) (hquiet : settings'.quiet = true) :
    (outcome surroundings durationMs (.run other .table command)).streams.stderr =
        surroundings.console.print (allNotices surroundings other command durationMs) ∧
      (outcome surroundings durationMs invocation').streams.stderr =
        surroundings.console.print ((allNotices surroundings other command durationMs).filter
          fun notice => !notice.isWarningOrHint) := by
  obtain ⟨hplain, halike⟩ := h
  cases halike with
  | refl hnone => exact absurd rfl (hnone other .table command)
  | run =>
    have hnotices : allNotices surroundings settings command durationMs =
        allNotices surroundings settings' command durationMs := by
      rw [allNotices, perform_congr hplain hrecords, allNotices]
    refine ⟨stderr_finish_perform.trans ?_, stderr_finish_perform.trans ?_⟩
    · rw [hloud, if_neg Bool.false_ne_true]
    · rw [hquiet, if_pos rfl, hnotices]

end DiffersInManner

/-- **What quiet and verbose output change.** Two command lines whose options differ only in those
for quiet and verbose output have the same exit code and the same standard output. If both
verbosities are below two, or they are the same, then the outcomes are equal, unless one is quiet
and the other is not and a command is run in table form. In that case the standard error of the
quiet one shows all notices of the other except for the warnings and the hints, and no others. -/
theorem run_manner (surroundings : Surroundings) (started finished : Binary64)
    (arguments arguments' rest : List Text) (options options' : List (ProgramOption × Text))
    (hscan : ProgramOption.all.scan arguments = .ok (options, rest))
    (hscan' : ProgramOption.all.scan arguments' = .ok (options', rest))
    (hsame : SameButManner options options') :
    let outcome := run surroundings started finished arguments
    let outcome' := run surroundings started finished arguments'
    (outcome.exitCode = outcome'.exitCode ∧ outcome.streams.stdout = outcome'.streams.stdout) ∧
    (verbosityOf options = verbosityOf options' ∨
        verbosityOf options < 2 ∧ verbosityOf options' < 2 →
      (isQuiet options = isQuiet options' → outcome = outcome') ∧
      ((∀ settings command, Invocation.ofArguments surroundings.files arguments ≠
        .run settings .table command) → outcome = outcome') ∧
      (isQuiet options = false → isQuiet options' = true → ∀ settings command,
        Invocation.ofArguments surroundings.files arguments = .run settings .table command →
          let notices := allNotices surroundings settings command (milliseconds? started finished)
          outcome.streams.stderr = surroundings.console.print notices ∧
            outcome'.streams.stderr = surroundings.console.print
              (notices.filter fun notice => !notice.isWarningOrHint))) := by
  intro outcome outcome'
  obtain ⟨hquiet, hverbosity⟩ := ProgramSettings.manner_foldl_apply options
  obtain ⟨hquiet', hverbosity'⟩ := ProgramSettings.manner_foldl_apply options'
  have hdiffers : DiffersInManner (options.foldl ProgramSettings.apply {})
      (options'.foldl ProgramSettings.apply {})
      (Invocation.ofArguments surroundings.files arguments)
      (Invocation.ofArguments surroundings.files arguments') :=
    ⟨ProgramSettings.plain_of_sameButManner hsame,
      Invocation.alike_ofArguments hscan hscan' hsame⟩
  refine ⟨hdiffers.stdout_outcome, fun hrecords => ?_⟩
  -- quietness and verbosity are in the settings what they are in the options
  rw [← hverbosity, ← hverbosity'] at hrecords
  refine ⟨fun heq => ?_, fun htable => ?_, fun hloud hstill settings command hrun => ?_⟩
  · rw [← hquiet, ← hquiet'] at heq
    exact hdiffers.outcome_eq hrecords (Or.inl heq)
  · exact hdiffers.outcome_eq hrecords (Or.inr htable)
  · rw [← hquiet] at hloud
    rw [← hquiet'] at hstill
    rw [hrun] at hdiffers
    show (Program.outcome _ _
      (Invocation.ofArguments surroundings.files arguments)).streams.stderr = _ ∧ _
    rw [hrun]
    exact hdiffers.stderr_outcome hrecords hloud hstill

/-- A line with a dropped term, with and without the option for quiet output. -/
theorem run_manner_quiet :
    let surroundings : Surroundings :=
      { environment := [], files := fun _ => .absent, runtimeVersion := [], platform := [] }
    let arguments := ["compile".toList, "a:1 b".toList]
    let arguments' := ["-q".toList, "-v".toList, "compile".toList, "a:1 b".toList]
    let outcome := run surroundings (.zero false) (.zero false) arguments
    let outcome' := run surroundings (.zero false) (.zero false) arguments'
    ProgramOption.all.scan arguments = .ok ([], arguments) ∧
      ProgramOption.all.scan arguments' = .ok ([(.quiet, []), (.verbose, [])], arguments) ∧
      SameButManner [] [(.quiet, []), (.verbose, [])] ∧
      (outcome.exitCode = outcome'.exitCode ∧ outcome.streams.stdout = outcome'.streams.stdout) ∧
      let notices := allNotices surroundings {} (.compile "a:1 b".toList false false) (some 0)
      outcome.streams.stderr = surroundings.console.print notices ∧
        outcome'.streams.stderr =
          surroundings.console.print (notices.filter fun notice => !notice.isWarningOrHint) ∧
        notices.map Notice.isWarningOrHint = [true] := by
  intro surroundings arguments arguments' outcome outcome'
  have hscan : ProgramOption.all.scan arguments = .ok ([], arguments) := by rfl
  have hscan' : ProgramOption.all.scan arguments' =
      .ok ([(.quiet, []), (.verbose, [])], arguments) := by rfl
  have hduration : milliseconds? (.zero false) (.zero false) = some 0 := by decide +kernel
  obtain ⟨hsame, hrecords⟩ := run_manner surroundings (.zero false) (.zero false) arguments
    arguments' arguments [] [(.quiet, []), (.verbose, [])] hscan hscan' rfl
  obtain ⟨-, -, htable⟩ := hrecords (Or.inr (by decide))
  have hrun : Invocation.ofArguments surroundings.files arguments =
      .run {} .table (.compile "a:1 b".toList false false) := by rfl
  obtain ⟨hstderr, hstderr'⟩ := htable rfl rfl _ _ hrun
  rw [hduration] at hstderr hstderr'
  exact ⟨hscan, hscan', rfl, hsame, hstderr, hstderr', by decide +kernel⟩

end Program

end SearchFilter
