import SearchFilter.Proofs.Compile.Report

/-!
# Strict compilations

Every token must be a term. Beside the lenient compilation of the same query, which drops what is no
term, a strict one takes the same steps up to the first token that the other drops, and ends there.
A lenient run thus tells what the strict one comes to: the same, if it has dropped nothing, and the
error for the first token it dropped, if there is one.

* `run?_strict`: a strict run, told from the lenient one.
* `compileReport_strict`: the report of a strict compilation, told from the lenient one.
-/

namespace SearchFilter

/-! ### The first token that is no term -/

/-- The first of some tokens that is no term. -/
def firstUnparsed? (tokens : List Text) : Option Text := tokens.find? fun token => !isTerm token

theorem firstUnparsed?_eq_head? (tokens : List Text) :
    firstUnparsed? tokens = (tokens.filter fun token => !isTerm token).head? :=
  List.head?_filter.symm

theorem isTerm_of_firstUnparsed? {tokens : List Text} {first : Text}
    (h : firstUnparsed? tokens = some first) : isTerm first = false := by
  simpa using List.find?_some h

/-- The first token that is no term stands in the first part exactly if it is the first in it. -/
theorem firstUnparsed?_append_and_mem_iff {tokens more : List Text} {first : Text} :
    firstUnparsed? (tokens ++ more) = some first ∧ first ∈ tokens ↔
      firstUnparsed? tokens = some first := by
  rw [firstUnparsed?, List.find?_append, ← firstUnparsed?, ← firstUnparsed?]
  cases hfirst : firstUnparsed? tokens with
  | none =>
    refine iff_of_false ?_ nofun
    rintro ⟨hmore, hmem⟩
    have hterm := List.find?_eq_none.1 hfirst first hmem
    rw [Option.none_or] at hmore
    rw [isTerm_of_firstUnparsed? hmore] at hterm
    exact hterm rfl
  | some other =>
    rw [Option.some_or, and_iff_left_iff_imp]
    intro h
    rw [h] at hfirst
    exact List.mem_of_find?_eq_some hfirst

namespace Run

variable {policies : Policies} {matching : Matching} {run next reached : Run} {token : Text}
  {tokens before : List Text} {failure : Failure}

/-! ### Steps -/

/-- Whether a term is taken does not depend on what becomes of other tokens. -/
theorem step_congr {others : Policies} (hmatching : policies.matching = others.matching)
    (h : isTerm token = true) : run.step policies token = run.step others token := by
  obtain ⟨term, hterm⟩ := Option.isSome_iff_exists.1 h
  rw [step_of_ofToken? hterm, step_of_ofToken? hterm, Run.apply, Run.apply, hmatching]

/-- What may be dropped is not refused. -/
theorem isTerm_of_refuses (h : Refuses policies run token failure)
    (hpolicy : policies.unparsed = .drop) : isTerm token = true := by
  cases h with
  | unparsed hterm hstrict =>
    rw [hpolicy] at hstrict
    cases hstrict
  | value hterm hvalue => exact isTerm_of_ofToken? hterm
  | conflict hterm hvalue hadd => exact isTerm_of_ofToken? hterm

/-- A term is never refused for not being one. -/
theorem Refuses.ne_unparsedTerm (h : Refuses policies run token failure)
    (hterm : isTerm token = true) (other : Text) : failure ≠ .query (.unparsedTerm other) := by
  cases h with
  | unparsed hnone hstrict =>
    rw [isTerm_of_ofToken?_eq_none hnone] at hterm
    cases hterm
  | @value term failure hsome hvalue =>
    rintro rfl
    rcases Value.ofRaw_cases policies.matching (some term.field) term.rawValue with
      ⟨-, hfault⟩ | ⟨-, ⟨kind, hkind⟩ | ⟨value, -, hok⟩⟩
    · rw [hfault] at hvalue
      cases hvalue
    · rw [hkind] at hvalue
      cases hvalue
    · rw [hok] at hvalue
      cases hvalue
  | conflict hsome hvalue hadd =>
    obtain ⟨-, rfl⟩ := Document.add_error_iff.1 hadd
    rintro ⟨⟩

/-! ### Runs -/

/-- What comes of a run if no token may be dropped. -/
def strict (run : Run) : Except Failure Run :=
  match run.dropped with
  | [] => .ok run
  | first :: _ => .error (.query (.unparsedTerm first))

theorem strict_of_eq_nil (h : run.dropped = []) : run.strict = .ok run := by
  rw [strict, h]

theorem strict_of_eq_cons {first : Text} {more : List Text} (h : run.dropped = first :: more) :
    run.strict = .error (.query (.unparsedTerm first)) := by
  rw [strict, h]

/-- **Simulation.** A run that may drop tokens tells what the run that may not comes to. -/
theorem run?_strict (h : Run.run? ⟨matching, .drop⟩ {} tokens = .ok reached) :
    Run.run? ⟨matching, .error⟩ {} tokens = reached.strict := by
  refine run?_prefix_induction (motive := fun before state =>
    Run.run? ⟨matching, .error⟩ {} before = state.strict) rfl
    (fun before state token next hstate htakes => ?_) h
  cases hdropped : state.dropped with
  | cons first more =>
    -- the strict run has ended already, and the first token to be dropped stays the first
    rw [strict_of_eq_cons hdropped] at hstate
    rw [run?_append_of_error hstate]
    cases htakes with
    | drop hterm hpolicy =>
      exact (strict_of_eq_cons (by rw [hdropped, List.cons_append])).symm
    | apply hterm hvalue hadd => exact (strict_of_eq_cons (by rw [hdropped])).symm
  | nil =>
    rw [strict_of_eq_nil hdropped] at hstate
    cases htakes with
    | drop hterm hpolicy =>
      rw [strict_of_eq_cons (by rw [hdropped, List.nil_append])]
      exact run?_eq_error_iff.2 ⟨before, token, [], state, rfl, hstate, .unparsed hterm rfl⟩
    | apply hterm hvalue hadd =>
      rw [strict_of_eq_nil (by rw [hdropped])]
      exact run?_append_of_takes hstate (.apply hterm hvalue hadd)

/-- What a run that may not drop tokens comes to, it comes to by terms alone. -/
theorem run?_of_strict (h : Run.run? ⟨matching, .error⟩ {} tokens = .ok reached) :
    Run.run? ⟨matching, .drop⟩ {} tokens = .ok reached ∧ reached.dropped = [] := by
  refine run?_prefix_induction (motive := fun before state =>
    Run.run? ⟨matching, .drop⟩ {} before = .ok state ∧ state.dropped = []) ⟨rfl, rfl⟩
    (fun before state token next hstate htakes => ?_) h
  cases htakes with
  | drop hterm hpolicy => cases hpolicy
  | apply hterm hvalue hadd =>
    exact ⟨run?_append_of_takes hstate.1 (.apply hterm hvalue hadd), hstate.2⟩

theorem run?_strict_eq_ok_iff :
    Run.run? ⟨matching, .error⟩ {} tokens = .ok reached ↔
      Run.run? ⟨matching, .drop⟩ {} tokens = .ok reached ∧ reached.dropped = [] := by
  refine ⟨run?_of_strict, fun ⟨h, hdropped⟩ => ?_⟩
  rw [run?_strict h, strict_of_eq_nil hdropped]

/-- The run over some tokens fails at one of them, behind those before it. -/
def FailsAt (policies : Policies) (tokens before : List Text) (token : Text) (failure : Failure) :
    Prop :=
  ∃ after reached, tokens = before ++ token :: after ∧
    Run.run? policies {} before = .ok reached ∧ reached.step policies token = .error failure

theorem run?_eq_error_iff_failsAt :
    Run.run? policies {} tokens = .error failure ↔
      ∃ before token, FailsAt policies tokens before token failure := by
  simp only [run?_eq_error_iff, FailsAt, step_eq_error_iff]

/-- The first token to be dropped is the first that is no term. -/
theorem head?_dropped (h : Run.run? policies {} tokens = .ok reached) :
    reached.dropped.head? = firstUnparsed? tokens := by
  rw [(accounts_of_run? h).dropped, firstUnparsed?_eq_head?]

/-- A token that is refused behind terms alone is refused whatever becomes of other tokens. -/
theorem FailsAt.run?_of_eq_none (h : FailsAt ⟨matching, .drop⟩ tokens before token failure)
    (hbefore : firstUnparsed? before = none) :
    Run.run? ⟨matching, .error⟩ {} tokens = .error failure := by
  obtain ⟨after, reached, rfl, hreached, hstep⟩ := h
  have hdropped : reached.dropped = [] := by
    rw [← List.head?_eq_none_iff, head?_dropped hreached, hbefore]
  have hstrict := run?_strict_eq_ok_iff.2 ⟨hreached, hdropped⟩
  have hterm := isTerm_of_refuses (step_eq_error_iff.1 hstep) rfl
  have hsame : reached.step ⟨matching, .error⟩ token = reached.step ⟨matching, .drop⟩ token :=
    step_congr rfl hterm
  exact run?_eq_error_iff.2 ⟨before, token, after, reached, rfl, hstrict,
    step_eq_error_iff.1 (hsame.trans hstep)⟩

/-- A run that may not drop tokens does not come as far as a token behind one that is no term. -/
theorem FailsAt.run?_of_eq_some {first : Text}
    (h : FailsAt ⟨matching, .drop⟩ tokens before token failure)
    (hbefore : firstUnparsed? before = some first) :
    Run.run? ⟨matching, .error⟩ {} tokens = .error (.query (.unparsedTerm first)) := by
  obtain ⟨after, reached, rfl, hreached, -⟩ := h
  rw [← head?_dropped hreached, List.head?_eq_some_iff] at hbefore
  obtain ⟨more, hdropped⟩ := hbefore
  refine run?_append_of_error ?_ (token :: after)
  rw [Run.run?_strict hreached, strict_of_eq_cons hdropped]

/-- Where a run that may drop tokens fails, the run that may not fails likewise or has failed
before, and the first token that is no term tells which. -/
theorem FailsAt.run?_strict (h : FailsAt ⟨matching, .drop⟩ tokens before token failure) :
    (Run.run? ⟨matching, .error⟩ {} tokens = .error failure ↔ firstUnparsed? before = none) ∧
      ∀ first, Run.run? ⟨matching, .error⟩ {} tokens = .error (.query (.unparsedTerm first)) ↔
        firstUnparsed? tokens = some first ∧ first ∈ before := by
  -- the lenient run drops tokens that are no terms, so its failure is another one
  have hne : ∀ first, failure ≠ .query (.unparsedTerm first) := by
    obtain ⟨after, reached, -, -, hstep⟩ := h
    have hrefuses := step_eq_error_iff.1 hstep
    exact hrefuses.ne_unparsedTerm (isTerm_of_refuses hrefuses rfl)
  have htokens : ∀ first, firstUnparsed? tokens = some first ∧ first ∈ before ↔
      firstUnparsed? before = some first := by
    obtain ⟨after, reached, rfl, -⟩ := h
    exact fun first => firstUnparsed?_append_and_mem_iff
  cases hbefore : firstUnparsed? before with
  | none =>
    rw [h.run?_of_eq_none hbefore]
    refine ⟨iff_of_true rfl rfl, fun first => ?_⟩
    rw [htokens, hbefore]
    exact iff_of_false (fun heq => hne first (Except.error.inj heq)) nofun
  | some first =>
    rw [h.run?_of_eq_some hbefore]
    refine ⟨iff_of_false (fun heq => hne first (Except.error.inj heq).symm) nofun, fun other => ?_⟩
    rw [htokens, hbefore, Except.error.injEq, Failure.query.injEq, QueryError.unparsedTerm.injEq,
      Option.some.injEq]

end Run

/-! ### Reports -/

/-- **Strict and lenient.** A strict compilation reports what the lenient one reports if that has
dropped nothing, and ends with the error for the first dropped token otherwise. Where the lenient
one fails, so does the strict one: with the same failure, or with the error for the first token
that is no term, the latter exactly if that token stands before the one that fails. -/
theorem compileReport_strict (matching : Matching) (settings : RenderSettings)
    (query : Option Text) :
    (∀ report, compileReport ⟨matching, .error⟩ settings query = .ok report ↔
      compileReport ⟨matching, .drop⟩ settings query = .ok report ∧ report.droppedTerms = []) ∧
    (∀ report first more, compileReport ⟨matching, .drop⟩ settings query = .ok report →
      report.droppedTerms = first :: more →
        compileReport ⟨matching, .error⟩ settings query = .error (.query (.unparsedTerm first))) ∧
    ∀ failure, compileReport ⟨matching, .drop⟩ settings query = .error failure →
      (∃ before token,
        Run.FailsAt ⟨matching, .drop⟩ (Query.tokens (query.getD [])) before token failure) ∧
      ∀ before token,
        Run.FailsAt ⟨matching, .drop⟩ (Query.tokens (query.getD [])) before token failure →
          (compileReport ⟨matching, .error⟩ settings query = .error failure ↔
            firstUnparsed? before = none) ∧
          ∀ first,
            compileReport ⟨matching, .error⟩ settings query =
                .error (.query (.unparsedTerm first)) ↔
              firstUnparsed? (Query.tokens (query.getD [])) = some first ∧ first ∈ before := by
  simp only [compileReport_eq_error_iff, compileReport_eq_ok_iff, runQuery?]
  refine ⟨fun report => ?_, ?_, fun failure hfailure => ?_⟩
  · constructor
    · rintro ⟨run, hrun, rfl⟩
      obtain ⟨hlenient, hdropped⟩ := Run.run?_of_strict hrun
      exact ⟨⟨run, hlenient, rfl⟩, hdropped⟩
    · rintro ⟨⟨run, hrun, rfl⟩, hdropped⟩
      exact ⟨run, Run.run?_strict_eq_ok_iff.2 ⟨hrun, hdropped⟩, rfl⟩
  · rintro _ first more ⟨run, hrun, rfl⟩ hdropped
    rw [Run.run?_strict hrun, Run.strict_of_eq_cons hdropped]
  · exact ⟨Run.run?_eq_error_iff_failsAt.1 hfailure, fun before token h => h.run?_strict⟩

/-- Two equalities on one field, with a token between them that is no term. -/
theorem compileReport_strict_between :
    compileReport {} {} (some "n:x oops n:y".toList) =
        .error (.query (.fieldConflict ['n'] "scalar".toList "equality".toList)) ∧
      compileReport ⟨.unanchored, .error⟩ {} (some "n:x oops n:y".toList) =
        .error (.query (.unparsedTerm "oops".toList)) := by
  have hlenient : compileReport {} {} (some "n:x oops n:y".toList) =
      .error (.query (.fieldConflict ['n'] "scalar".toList "equality".toList)) := by
    decide +kernel
  have hfails : Run.FailsAt {} (Query.tokens "n:x oops n:y".toList)
      ["n:x".toList, "oops".toList] "n:y".toList
      (.query (.fieldConflict ['n'] "scalar".toList "equality".toList)) := by
    let reached : Run :=
      { document := ⟨[(['n'], .scalar (.string ['x']))]⟩
        applied := [(⟨['n'], .equality, ['x'], "n:x".toList⟩, .string ['x'])]
        dropped := ["oops".toList]
        events := [.dropped "oops".toList] }
    exact ⟨[], reached, by decide +kernel, by decide +kernel, by decide +kernel⟩
  refine ⟨hlenient, ?_⟩
  obtain ⟨-, hfirst⟩ := ((compileReport_strict .unanchored {} _).2.2 _ hlenient).2 _ _ hfails
  exact (hfirst _).2 ⟨by decide +kernel, by decide⟩

end SearchFilter
