import SearchFilter.Proofs.Compile.Run
import SearchFilter.Proofs.Document.Adding
import SearchFilter.Proofs.Value.Coercion

/-!
# How a compilation can end

It gives a result or an error that names a term, a value or two constraints, except for one fault: a
term that is reached may have a number for its value with an information separator in the white
space around it, which the form of a number admits and its conversion does not read.

* `isPromised_iff_not_meetsUnreadable`: a compilation ends as it is meant to exactly if no such term
  is reached.
-/

namespace SearchFilter

/-! ### Promises -/

/-- The errors that a compilation is meant to end with. -/
inductive QueryError.IsCompileError : QueryError → Prop
  | unparsedTerm (token : Text) : IsCompileError (.unparsedTerm token)
  | valueCoercion (rawValue kind : Text) (field : Option Text) :
      IsCompileError (.valueCoercion rawValue kind field)
  | fieldConflict (field existing incoming : Text) :
      IsCompileError (.fieldConflict field existing incoming)

/-- A compilation that ends as it is meant to: with a result or one of its errors. -/
def IsPromised {α : Type} (outcome : Except Failure α) : Prop :=
  (∃ result, outcome = .ok result) ∨
    ∃ error, outcome = .error (.query error) ∧ error.IsCompileError

/-- A token that is a term and whose value has the form of a number, but not one that is
read. -/
def IsUnreadableToken (matching : Matching) (token : Text) : Prop :=
  matching = .unanchored ∧ ∃ term, Term.ofToken? token = some term ∧
    Value.IsUnreadable term.rawValue

/-- The run over a query comes to an unreadable token. -/
def MeetsUnreadable (policies : Policies) (query : Option Text) : Prop :=
  ∃ before token after reached, Query.tokens (query.getD []) = before ++ token :: after ∧
    Run.run? policies {} before = .ok reached ∧ IsUnreadableToken policies.matching token

theorem isPromised_map_iff {α β : Type} (f : α → β) (outcome : Except Failure α) :
    IsPromised (f <$> outcome) ↔ IsPromised outcome := by
  cases outcome with
  | ok result => exact ⟨fun _ => Or.inl ⟨result, rfl⟩, fun _ => Or.inl ⟨f result, rfl⟩⟩
  | error failure =>
    constructor
    · rintro (⟨result, h⟩ | ⟨error, h, herror⟩)
      · cases h
      · exact Or.inr ⟨error, by rw [Except.error.inj h], herror⟩
    · rintro (⟨result, h⟩ | ⟨error, h, herror⟩)
      · cases h
      · exact Or.inr ⟨error, by rw [h]; rfl, herror⟩

theorem not_isPromised_fault {α : Type} (fault : Fault) :
    ¬ IsPromised (.error (.fault fault) : Except Failure α) := by
  rintro (⟨result, h⟩ | ⟨error, h, -⟩)
  · cases h
  · cases h

/-! ### Refusals -/

namespace Run

variable {policies : Policies} {run : Run} {token : Text} {failure : Failure}

/-- A readable token is refused with an error of the query. -/
theorem Refuses.isCompileError (hrefuses : Refuses policies run token failure)
    (h : ¬ IsUnreadableToken policies.matching token) :
    ∃ error, failure = .query error ∧ error.IsCompileError := by
  cases hrefuses with
  | unparsed hterm hpolicy => exact ⟨_, rfl, .unparsedTerm token⟩
  | value hterm hvalue =>
    obtain ⟨kind, rfl⟩ := Value.exists_kind_of_ofRaw
      (fun ⟨hmatching, hunreadable⟩ => h ⟨hmatching, _, hterm, hunreadable⟩) hvalue
    exact ⟨_, rfl, .valueCoercion _ kind _⟩
  | conflict hterm hvalue hadd =>
    obtain ⟨-, rfl⟩ := Document.add_error_iff.1 hadd
    exact ⟨_, rfl, .fieldConflict _ _ _⟩

/-- An unreadable token is refused with a fault, whatever was applied before. -/
theorem refuses_of_isUnreadableToken (run : Run) (h : IsUnreadableToken policies.matching token) :
    ∃ fault, Refuses policies run token (.fault fault) := by
  obtain ⟨hmatching, term, hterm, hunreadable⟩ := h
  exact ⟨_, .value hterm (Value.ofRaw_of_isUnreadable _ ⟨hmatching, hunreadable⟩)⟩

/-- The errors that a token is refused with are those that a compilation is meant to end with. -/
theorem Refuses.isCompileError_query {error : QueryError}
    (hrefuses : Refuses policies run token (.query error)) : error.IsCompileError := by
  by_cases hunreadable : IsUnreadableToken policies.matching token
  · obtain ⟨fault, hfault⟩ := refuses_of_isUnreadableToken run hunreadable
    have hstep := hrefuses.step_eq.symm.trans hfault.step_eq
    cases hstep
  · obtain ⟨other, hother, herror⟩ := hrefuses.isCompileError hunreadable
    cases hother
    exact herror

/-- All numbers of the document are finite at every point of a run. -/
theorem isFinite_document {tokens : List Text} {reached : Run}
    (hstart : run.document.toJson.isFinite = true)
    (h : run.run? policies tokens = .ok reached) : reached.document.toJson.isFinite = true := by
  -- dropping leaves the document, and what is applied is a value that the coercion gave
  refine run?_induction (motive := fun state => state.document.toJson.isFinite = true) hstart
    (fun state token next hstate htakes => ?_) h
  cases htakes with
  | drop hterm hpolicy => exact hstate
  | apply hterm hvalue hadd =>
    exact Document.isFinite_add hstate (Value.isFinite_of_ofRaw hvalue) hadd

end Run

/-! ### Compilations -/

variable {policies : Policies} {query : Option Text}

theorem isPromised_runQuery?_iff :
    IsPromised (runQuery? policies query) ↔ ¬ MeetsUnreadable policies query := by
  constructor
  · rintro hpromised ⟨before, token, after, reached, htokens, hreached, hunreadable⟩
    obtain ⟨fault, hrefuses⟩ := Run.refuses_of_isUnreadableToken reached hunreadable
    have hfault := Run.run?_eq_error_iff.2
      ⟨before, token, after, reached, htokens, hreached, hrefuses⟩
    rw [runQuery?, hfault] at hpromised
    exact not_isPromised_fault fault hpromised
  · intro h
    cases hrun : runQuery? policies query with
    | ok run => exact Or.inl ⟨run, rfl⟩
    | error failure =>
      obtain ⟨before, token, after, reached, htokens, hreached, hrefuses⟩ :=
        Run.run?_eq_error_iff.1 hrun
      have hreadable : ¬ IsUnreadableToken policies.matching token :=
        fun hunreadable => h ⟨before, token, after, reached, htokens, hreached, hunreadable⟩
      obtain ⟨error, rfl, herror⟩ := hrefuses.isCompileError hreadable
      exact Or.inr ⟨error, rfl, herror⟩

/-- What a run comes to is always rendered. -/
theorem renderDocument_of_runQuery? {run : Run} (settings : RenderSettings)
    (h : runQuery? policies query = .ok run) :
    renderDocument settings run.document = .ok (run.document.toJson.text settings.style) := by
  have hfinite : run.document.toJson.isFinite = true := Run.isFinite_document rfl h
  rw [renderDocument, Document.render_eq_ok_iff.2 ⟨Or.inr hfinite, rfl⟩]
  rfl

/-- The text of what was compiled is always written, and whether other than finite numbers may be
written plays no part in it. -/
theorem compileQuery_eq (policies : Policies) (settings : RenderSettings) (query : Option Text) :
    compileQuery policies settings query =
      (fun run => run.document.toJson.text settings.style) <$> runQuery? policies query := by
  rw [compileQuery, buildDocument]
  cases hrun : runQuery? policies query with
  | error failure => rfl
  | ok run => exact renderDocument_of_runQuery? settings hrun

/-- With the default settings the text of what was compiled is always written. -/
theorem compileQuery_default (policies : Policies) (query : Option Text) :
    compileQuery policies {} query =
      (fun run => run.document.toJson.text .compact) <$> runQuery? policies query :=
  compileQuery_eq policies {} query

/-- The report of a run. -/
def Run.report (settings : RenderSettings) (run : Run) : Report where
  filter := run.document.toJson.text settings.style
  document := run.document
  terms := run.applied.map reportTerm
  droppedTerms := run.dropped
  warnings := run.dropped.map dropWarning

/-- A report ends as its run does. -/
theorem compileReport_eq (policies : Policies) (settings : RenderSettings) (query : Option Text) :
    compileReport policies settings query = Run.report settings <$> runQuery? policies query := by
  rw [compileReport]
  cases hrun : runQuery? policies query with
  | error failure => rfl
  | ok run =>
    show (renderDocument settings run.document >>= fun filter => _) = _
    rw [renderDocument_of_runQuery? settings hrun]
    rfl

theorem compileReport_eq_ok_iff {settings : RenderSettings} {report : Report} :
    compileReport policies settings query = .ok report ↔
      ∃ run, runQuery? policies query = .ok run ∧ run.report settings = report := by
  rw [compileReport_eq, map_eq_ok_iff]

theorem compileReport_eq_error_iff {settings : RenderSettings} {failure : Failure} :
    compileReport policies settings query = .error failure ↔
      runQuery? policies query = .error failure := by
  rw [compileReport_eq, map_eq_error_iff]

theorem isCompileError_of_compileReport {settings : RenderSettings} {error : QueryError}
    (h : compileReport policies settings query = .error (.query error)) :
    error.IsCompileError := by
  obtain ⟨before, token, after, reached, -, -, hrefuses⟩ :=
    Run.run?_eq_error_iff.1 (compileReport_eq_error_iff.1 h)
  exact hrefuses.isCompileError_query

/-- A compilation ends as it is meant to exactly if it meets no unreadable token, and the
coercion of a value exactly if that value is read. -/
theorem isPromised_iff_not_meetsUnreadable (policies : Policies) (query : Option Text) :
    (IsPromised (buildDocument policies query) ↔ ¬ MeetsUnreadable policies query) ∧
      (IsPromised (compileQuery policies {} query) ↔ ¬ MeetsUnreadable policies query) ∧
      (IsPromised (compileReport policies {} query) ↔ ¬ MeetsUnreadable policies query) ∧
      ∀ (matching : Matching) (field : Option Text) (rawValue : Text),
        (∀ failure, Value.ofRaw matching field rawValue = .error failure →
          ∃ kind, failure = .query (.valueCoercion rawValue kind field)) ↔
        ¬ (matching = .unanchored ∧ Value.IsUnreadable rawValue) := by
  have hquery : IsPromised (compileQuery policies {} query) ↔ ¬ MeetsUnreadable policies query := by
    rw [compileQuery_default, isPromised_map_iff, isPromised_runQuery?_iff]
  refine ⟨?_, hquery, ?_, fun matching field rawValue => ?_⟩
  · rw [buildDocument, isPromised_map_iff, isPromised_runQuery?_iff]
  · -- a report ends as its filter does
    rw [← hquery, ← compileReport_filter, isPromised_map_iff]
  · refine ⟨fun h hunreadable => ?_, fun hread _ => Value.exists_kind_of_ofRaw hread⟩
    obtain ⟨kind, hkind⟩ := h _ (Value.ofRaw_of_isUnreadable field hunreadable)
    cases hkind

/-- A separator behind a number is where the two notions of white space part. -/
theorem not_isPromised_compileQuery_separator :
    ¬ IsPromised (compileQuery {} {} (some ['a', ':', '1', '\x1f'])) := by
  have hfault : compileQuery {} {} (some ['a', ':', '1', '\x1f']) =
      .error (.fault (.unreadableNumber ['1', '\x1f'])) := by
    rfl
  rw [hfault]
  exact not_isPromised_fault _

end SearchFilter
