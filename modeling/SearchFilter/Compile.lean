import SearchFilter.Document.Render
import SearchFilter.Query.Token
import SearchFilter.Term
import SearchFilter.Value.Coercion

/-!
# Compilation

The tokens of a query are taken in order: each is read as a term, its value is coerced, and the
constraint is added to the document. The run keeps what was applied, what was dropped and what
deserves a record, and stops at the first failure.

* `run?_append`: a run over a list of tokens is continued by a run over more.
* `compileReport_filter`: a report's filter is what compiling alone gives.
-/

namespace SearchFilter

/-! ### Records -/

/-- What deserves a record during a run. -/
inductive Event where
  /-- A token was dropped, for it is no term. -/
  | dropped (token : Text)
  /-- A comparison on a field took the place of an earlier one of its kind. -/
  | overwritten (comparison : Comparison) (field : Text)
  deriving DecidableEq

namespace Event

/-- The part of the program that a record comes from. -/
def origin : Event → Text
  | dropped _ => "findexpr.compiler".toList
  | overwritten .. => "findexpr.document".toList

/-- The importance of a record. -/
def level : Event → Text := fun _ => "DEBUG".toList

/-- The words of a record. -/
def message : Event → Text
  | dropped token => "Dropping unparsed term: ".toList ++ Text.quoted token
  | overwritten comparison field =>
    "Overwriting ".toList ++ comparison.filterKey ++ " on field ".toList ++ Text.quoted field

end Event

/-! ### Runs -/

/-- The state of a compilation. -/
structure Run where
  document : Document := .empty
  /-- The terms applied so far, with their values. -/
  applied : List (Term × Value) := []
  /-- The tokens dropped so far. -/
  dropped : List Text := []
  /-- The records made so far. -/
  events : List Event := []
  deriving DecidableEq

namespace Run

/-- Drops a token, or refuses it. -/
def drop (policies : Policies) (run : Run) (token : Text) : Except Failure Run :=
  match policies.unparsed with
  | .error => .error (.query (.unparsedTerm token))
  | .drop =>
    .ok { run with dropped := run.dropped ++ [token], events := run.events ++ [.dropped token] }

/-- Applies a term. -/
def apply (policies : Policies) (run : Run) (term : Term) : Except Failure Run :=
  match Value.ofRaw policies.matching (some term.field) term.rawValue with
  | .error failure => .error failure
  | .ok value =>
    let constraint : Constraint := ⟨term.field, term.operator, value⟩
    match run.document.add constraint with
    | .error error => .error (.query error)
    | .ok document =>
      let events := (run.document.overwritten? constraint).toList.map (.overwritten · term.field)
      .ok { run with
        document, applied := run.applied ++ [(term, value)], events := run.events ++ events }

/-- Takes one token. -/
def step (policies : Policies) (run : Run) (token : Text) : Except Failure Run :=
  match Term.ofToken? token with
  | none => run.drop policies token
  | some term => run.apply policies term

/-- Takes tokens until one fails (`_run`): the state reached, and the failure if there was one. -/
def advance (policies : Policies) (run : Run) : List Text → Run × Option Failure
  | [] => (run, none)
  | token :: tokens =>
    match run.step policies token with
    | .ok next => next.advance policies tokens
    | .error failure => (run, some failure)

/-- Takes tokens; the state reached by all of them, or the first failure. -/
def run? (policies : Policies) (run : Run) (tokens : List Text) : Except Failure Run :=
  match run.advance policies tokens with
  | (reached, none) => .ok reached
  | (_, some failure) => .error failure

theorem run?_nil (policies : Policies) (run : Run) : run.run? policies [] = .ok run := rfl

theorem run?_cons (policies : Policies) (run : Run) (token : Text) (tokens : List Text) :
    run.run? policies (token :: tokens) =
      match run.step policies token with
      | .ok next => next.run? policies tokens
      | .error failure => .error failure := by
  simp only [run?, advance]
  cases run.step policies token <;> rfl

/-- A run over more tokens continues the run over the first of them. -/
theorem run?_append (policies : Policies) (run : Run) (tokens more : List Text) :
    run.run? policies (tokens ++ more) =
      match run.run? policies tokens with
      | .ok next => next.run? policies more
      | .error failure => .error failure := by
  induction tokens generalizing run with
  | nil => simp [run?_nil]
  | cons token tokens ih =>
    simp only [List.cons_append, run?_cons]
    cases run.step policies token with
    | ok next => exact ih next
    | error failure => rfl

end Run

/-! ### Compiling a query -/

/-- The run over a query, and the failure that ended it if there was one. A query that is
    not given is an empty one. -/
def runQuery (policies : Policies) (query : Option Text) : Run × Option Failure :=
  Run.advance policies {} (Query.tokens (query.getD []))

/-- The run over a query, if it succeeds. -/
def runQuery? (policies : Policies) (query : Option Text) : Except Failure Run :=
  Run.run? policies {} (Query.tokens (query.getD []))

/-- The document of a query (`build_document`). -/
def buildDocument (policies : Policies) (query : Option Text) : Except Failure Document :=
  Run.document <$> runQuery? policies query

/-- The text of a document, as the last step of a compilation. -/
def renderDocument (settings : RenderSettings) (document : Document) : Except Failure Text :=
  (document.render settings).mapError .fault

/-- The filter text of a query (`compile_query`). -/
def compileQuery (policies : Policies) (settings : RenderSettings) (query : Option Text) :
    Except Failure Text := do
  renderDocument settings (← buildDocument policies query)

/-- A term of a report (`ParsedTerm`). -/
structure ReportedTerm where
  token : Text
  field : Text
  operator : Operator
  rawValue : Text
  value : Value
  deriving DecidableEq

/-- A compiled filter and the parts that it was made from (`CompileReport`). -/
structure Report where
  filter : Text
  document : Document
  terms : List ReportedTerm
  droppedTerms : List Text
  warnings : List Text
  deriving DecidableEq

/-- The warning for a token that was dropped. -/
def dropWarning (token : Text) : Text :=
  "Ignored term that does not parse: ".toList ++ Text.quoted token

/-- The report of a term and its value. -/
def reportTerm : Term × Value → ReportedTerm
  | (term, value) => ⟨term.source, term.field, term.operator, term.rawValue, value⟩

/-- The filter of a query, with a report on its terms (`compile_report`). -/
def compileReport (policies : Policies) (settings : RenderSettings) (query : Option Text) :
    Except Failure Report := do
  let run ← runQuery? policies query
  let filter ← renderDocument settings run.document
  return { filter, document := run.document, terms := run.applied.map reportTerm,
           droppedTerms := run.dropped, warnings := run.dropped.map dropWarning }

/-- A report's filter is the filter that compiling alone gives, and fails with it. -/
theorem compileReport_filter (policies : Policies) (settings : RenderSettings)
    (query : Option Text) :
    Report.filter <$> compileReport policies settings query =
      compileQuery policies settings query := by
  simp only [compileReport, compileQuery, buildDocument]
  cases runQuery? policies query with
  | error failure => rfl
  | ok run =>
    simp only [bind, Except.bind, Functor.map, Except.map]
    cases renderDocument settings run.document <;> rfl

end SearchFilter
