import SearchFilter.Compile
import SearchFilter.Proofs.Fold

/-!
# Runs, step by step

A step drops its token or applies the token's term, or is refused for one of three reasons; `Takes`
and `Refuses` list these cases, and nothing else about runs looks into a step.

* `step_eq_ok_iff`: what a step that succeeds takes.
* `step_eq_error_iff`: why a step is refused.
* `run?_eq_error_iff`: a run fails where a step first does.
* `run?_prefix_induction`: what steps keep, runs keep.
-/

namespace SearchFilter

namespace Run

variable {policies : Policies} {run next reached : Run} {token : Text} {tokens : List Text}
  {failure : Failure}

/-! ### One step -/

/-- The constraint that a term puts on its field once its value is known. -/
def constraintOf (term : Term) (value : Value) : Constraint := ⟨term.field, term.operator, value⟩

/-- The ways in which a step succeeds, with what it leaves. -/
inductive Takes (policies : Policies) (run : Run) (token : Text) : Run → Prop
  /-- A token that is no term is dropped. -/
  | drop (hterm : Term.ofToken? token = none) (hpolicy : policies.unparsed = .drop) :
      Takes policies run token
        { run with dropped := run.dropped ++ [token], events := run.events ++ [.dropped token] }
  /-- A term is applied to the document. -/
  | apply {term : Term} {value : Value} {document : Document}
      (hterm : Term.ofToken? token = some term)
      (hvalue : Value.ofRaw policies.matching (some term.field) term.rawValue = .ok value)
      (hadd : run.document.add (constraintOf term value) = .ok document) :
      Takes policies run token
        { run with
          document, applied := run.applied ++ [(term, value)]
          events := run.events ++ (run.document.overwritten? (constraintOf term value)).toList.map
            (.overwritten · term.field) }

/-- The reasons for which a step is refused. -/
inductive Refuses (policies : Policies) (run : Run) (token : Text) : Failure → Prop
  /-- The token is no term and must be one. -/
  | unparsed (hterm : Term.ofToken? token = none) (hpolicy : policies.unparsed = .error) :
      Refuses policies run token (.query (.unparsedTerm token))
  /-- The raw value of the term has no value. -/
  | value {term : Term} {failure : Failure} (hterm : Term.ofToken? token = some term)
      (hvalue : Value.ofRaw policies.matching (some term.field) term.rawValue = .error failure) :
      Refuses policies run token failure
  /-- The term does not fit the document. -/
  | conflict {term : Term} {value : Value} {error : QueryError}
      (hterm : Term.ofToken? token = some term)
      (hvalue : Value.ofRaw policies.matching (some term.field) term.rawValue = .ok value)
      (hadd : run.document.add (constraintOf term value) = .error error) :
      Refuses policies run token (.query error)

theorem step_of_ofToken?_eq_none (h : Term.ofToken? token = none) :
    run.step policies token = run.drop policies token := by
  rw [step, h]

theorem step_of_ofToken? {term : Term} (h : Term.ofToken? token = some term) :
    run.step policies token = run.apply policies term := by
  rw [step, h]

theorem Takes.step_eq (h : Takes policies run token next) : run.step policies token = .ok next := by
  cases h with
  | drop hterm hpolicy => rw [step_of_ofToken?_eq_none hterm, Run.drop, hpolicy]
  | apply hterm hvalue hadd =>
    rw [constraintOf] at hadd
    simp only [step_of_ofToken? hterm, Run.apply, hvalue, hadd]
    rfl

theorem Refuses.step_eq (h : Refuses policies run token failure) :
    run.step policies token = .error failure := by
  cases h with
  | unparsed hterm hpolicy => rw [step_of_ofToken?_eq_none hterm, Run.drop, hpolicy]
  | value hterm hvalue => simp only [step_of_ofToken? hterm, Run.apply, hvalue]
  | conflict hterm hvalue hadd =>
    rw [constraintOf] at hadd
    simp only [step_of_ofToken? hterm, Run.apply, hvalue, hadd]

/-- A step succeeds or is refused, in one of these ways. -/
theorem takes_or_refuses (policies : Policies) (run : Run) (token : Text) :
    (∃ next, Takes policies run token next) ∨ ∃ failure, Refuses policies run token failure := by
  cases hterm : Term.ofToken? token with
  | none =>
    cases hpolicy : policies.unparsed with
    | drop => exact Or.inl ⟨_, .drop hterm hpolicy⟩
    | error => exact Or.inr ⟨_, .unparsed hterm hpolicy⟩
  | some term =>
    cases hvalue : Value.ofRaw policies.matching (some term.field) term.rawValue with
    | error failure => exact Or.inr ⟨_, .value hterm hvalue⟩
    | ok value =>
      cases hadd : run.document.add (constraintOf term value) with
      | error error => exact Or.inr ⟨_, .conflict hterm hvalue hadd⟩
      | ok document => exact Or.inl ⟨_, .apply hterm hvalue hadd⟩

theorem step_eq_ok_iff : run.step policies token = .ok next ↔ Takes policies run token next := by
  refine ⟨fun h => ?_, Takes.step_eq⟩
  rcases takes_or_refuses policies run token with ⟨other, hother⟩ | ⟨failure, hfailure⟩
  · rw [hother.step_eq] at h
    rwa [← Except.ok.inj h]
  · rw [hfailure.step_eq] at h
    cases h

theorem step_eq_error_iff :
    run.step policies token = .error failure ↔ Refuses policies run token failure := by
  refine ⟨fun h => ?_, Refuses.step_eq⟩
  rcases takes_or_refuses policies run token with ⟨next, hnext⟩ | ⟨other, hother⟩
  · rw [hnext.step_eq] at h
    cases h
  · rw [hother.step_eq] at h
    rwa [← Except.error.inj h]

/-- The step for a term with a value adds its constraint, and fails exactly where adding does. -/
theorem document_step_of_value {term : Term} {value : Value}
    (hterm : Term.ofToken? token = some term)
    (hvalue : Value.ofRaw policies.matching (some term.field) term.rawValue = .ok value) :
    document <$> run.step policies token =
      (run.document.add (constraintOf term value)).mapError .query := by
  cases hadd : run.document.add (constraintOf term value) with
  | ok document =>
    rw [Takes.step_eq (.apply hterm hvalue hadd)]
    rfl
  | error error =>
    rw [Refuses.step_eq (.conflict hterm hvalue hadd)]
    rfl

/-! ### All steps -/

theorem run?_eq_foldlM : run.run? policies tokens = tokens.foldlM (step policies) run := by
  induction tokens generalizing run with
  | nil => rfl
  | cons token tokens ih =>
    rw [run?_cons, List.foldlM_cons]
    cases run.step policies token with
    | error failure => rfl
    | ok next => exact ih

/-- A run fails exactly with the refusal of a token, at what the tokens before it came to. -/
theorem run?_eq_error_iff :
    run.run? policies tokens = .error failure ↔
      ∃ before token after reached, tokens = before ++ token :: after ∧
        run.run? policies before = .ok reached ∧ Refuses policies reached token failure := by
  rw [run?_eq_foldlM, foldlM_eq_error_iff]
  simp only [run?_eq_foldlM, step_eq_error_iff]

/-- A run goes on by what a step can do at its end. -/
theorem run?_append_of_takes (h : run.run? policies tokens = .ok reached)
    (htakes : Takes policies reached token next) :
    run.run? policies (tokens ++ [token]) = .ok next := by
  rw [run?_append, h]
  show reached.run? policies [token] = _
  rw [run?_cons, htakes.step_eq]
  rfl

/-- A run that fails does not look at what comes behind. -/
theorem run?_append_of_error (h : run.run? policies tokens = .error failure) (more : List Text) :
    run.run? policies (tokens ++ more) = .error failure := by
  rw [run?_append, h]

/-- What holds before any token and is kept by all that a step can do holds of the tokens of a
run and its end. -/
theorem run?_prefix_induction {motive : List Text → Run → Prop} (hstart : motive [] run)
    (hstep : ∀ before state token next, motive before state → Takes policies state token next →
      motive (before ++ [token]) next)
    (h : run.run? policies tokens = .ok reached) : motive tokens reached := by
  rw [run?_eq_foldlM] at h
  refine foldlM_prefix_induction hstart (fun before state token next hstate hnext => ?_) h
  exact hstep before state token next hstate (step_eq_ok_iff.1 hnext)

/-- What holds at the start of a run and is kept by all that a step can do holds at its end. -/
theorem run?_induction {motive : Run → Prop} (hstart : motive run)
    (hstep : ∀ state token next, motive state → Takes policies state token next → motive next)
    (h : run.run? policies tokens = .ok reached) : motive reached :=
  run?_prefix_induction (motive := fun _ state => motive state) hstart
    (fun _ state token next hstate htakes => hstep state token next hstate htakes) h

end Run

end SearchFilter
