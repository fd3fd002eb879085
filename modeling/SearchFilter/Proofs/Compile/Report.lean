import SearchFilter.Proofs.Compile.Outcome
import SearchFilter.Proofs.Document.Grouping

/-!
# What a report says

A run keeps three accounts, of its terms, of the dropped tokens and of the document, and each step
enters its token in exactly one of the first two. `Accounts` is what the three have in common; it
holds before the first token and every step keeps it.

* `accounts_of_run?`: the accounts of a run are in order.
* `accountsFor_of_compileReport`: so is a report.
-/

namespace SearchFilter

/-! ### Terms among the tokens -/

/-- Whether a token is read as a term. -/
def isTerm (token : Text) : Bool := (Term.ofToken? token).isSome

theorem isTerm_of_ofToken? {token : Text} {term : Term} (h : Term.ofToken? token = some term) :
    isTerm token = true := by
  rw [isTerm, h]
  rfl

theorem isTerm_of_ofToken?_eq_none {token : Text} (h : Term.ofToken? token = none) :
    isTerm token = false := by
  rw [isTerm, h]
  rfl

/-- The sources of the terms are the tokens that are terms. -/
theorem map_source_filterMap_ofToken? (tokens : List Text) :
    (tokens.filterMap Term.ofToken?).map Term.source = tokens.filter isTerm := by
  induction tokens with
  | nil => rfl
  | cons token tokens ih =>
    cases hterm : Term.ofToken? token with
    | none =>
      have hno : ¬ isTerm token = true := by simp [isTerm_of_ofToken?_eq_none hterm]
      rw [List.filterMap_cons_none hterm, List.filter_cons_of_neg hno, ih]
    | some term =>
      have hsource : term.source = token := (Term.source_ofToken? hterm).1
      rw [List.filterMap_cons_some hterm, List.filter_cons_of_pos (isTerm_of_ofToken? hterm),
        List.map_cons, hsource, ih]

/-! ### Accounts -/

namespace Run

variable {policies : Policies} {run next reached : Run} {token : Text} {tokens : List Text}

/-- The constraint of an applied term. -/
def appliedConstraint (pair : Term × Value) : Constraint := constraintOf pair.1 pair.2

/-- A run agrees with the tokens that it took: each is accounted for in its turn, as a term or
as a dropped token, the values are those of the raw values, and the document is what the applied
terms add up to. -/
structure Accounts (policies : Policies) (tokens : List Text) (run : Run) : Prop where
  terms : run.applied.map Prod.fst = tokens.filterMap Term.ofToken?
  values : ∀ pair ∈ run.applied, ∀ field,
    Value.ofRaw policies.matching field pair.1.rawValue = .ok pair.2
  dropped : run.dropped = tokens.filter fun token => !isTerm token
  document : addAll (run.applied.map appliedConstraint) = .ok run.document

theorem accounts_nil (policies : Policies) : Accounts policies [] {} where
  terms := rfl
  values := List.forall_mem_nil _
  dropped := rfl
  document := rfl

/-- Whichever way a step takes its token, the accounts stay in order. -/
theorem Accounts.step (h : Accounts policies tokens run) (htakes : Takes policies run token next) :
    Accounts policies (tokens ++ [token]) next := by
  cases htakes with
  | drop hterm hpolicy =>
    -- the token is dropped: it goes to the end of those that are no terms
    have hno := isTerm_of_ofToken?_eq_none hterm
    have hdropped : (tokens ++ [token]).filter (fun token => !isTerm token) =
        run.dropped ++ [token] := by
      rw [List.filter_append, h.dropped]
      simp [hno]
    have hterms : (tokens ++ [token]).filterMap Term.ofToken? =
        tokens.filterMap Term.ofToken? := by
      rw [List.filterMap_append]
      simp [hterm]
    exact ⟨hterms ▸ h.terms, h.values, hdropped.symm, h.document⟩
  | @apply term value document hterm hvalue hadd =>
    -- the token is applied: one term, one value and one constraint more
    have hyes := isTerm_of_ofToken? hterm
    have hdropped : (tokens ++ [token]).filter (fun token => !isTerm token) = run.dropped := by
      rw [List.filter_append, h.dropped]
      simp [hyes]
    refine ⟨?_, ?_, hdropped.symm, ?_⟩
    · show (run.applied ++ [(term, value)]).map Prod.fst = _
      rw [List.map_append, h.terms, List.filterMap_append]
      simp [hterm]
    · show ∀ pair ∈ run.applied ++ [(term, value)], _
      rw [List.forall_mem_append, List.forall_mem_singleton]
      exact ⟨h.values, Value.ofRaw_congr_field hvalue⟩
    · show addAll ((run.applied ++ [(term, value)]).map appliedConstraint) = _
      rw [List.map_append, List.map_singleton]
      exact addAll_append_singleton_eq_ok_iff.2 ⟨run.document, h.document, hadd⟩

/-- At the end of a run all of its tokens are accounted for. -/
theorem accounts_of_run? (h : Run.run? policies {} tokens = .ok reached) :
    Accounts policies tokens reached :=
  run?_prefix_induction (accounts_nil policies) (fun _ _ _ _ hstate htakes => hstate.step htakes) h

end Run

/-! ### Reports -/

namespace ReportedTerm

/-- The term that is reported. -/
def term (reported : ReportedTerm) : Term :=
  ⟨reported.field, reported.operator, reported.rawValue, reported.token⟩

/-- The constraint that a reported term put on its field. -/
def constraint (reported : ReportedTerm) : Constraint :=
  ⟨reported.field, reported.operator, reported.value⟩

end ReportedTerm

variable {policies : Policies} {settings : RenderSettings} {query : Option Text} {report : Report}

/-- A report is made from a run and the text of the document that the run came to. -/
theorem exists_run_of_compileReport (h : compileReport policies settings query = .ok report) :
    ∃ run, runQuery? policies query = .ok run ∧
      run.document.render settings = .ok report.filter ∧
      report.document = run.document ∧ report.terms = run.applied.map reportTerm ∧
      report.droppedTerms = run.dropped ∧ report.warnings = run.dropped.map dropWarning := by
  obtain ⟨run, hrun, rfl⟩ := compileReport_eq_ok_iff.1 h
  have hfinite : run.document.toJson.isFinite = true := Run.isFinite_document rfl hrun
  exact ⟨run, hrun, Document.render_eq_ok_iff.2 ⟨Or.inr hfinite, rfl⟩, rfl, rfl, rfl, rfl⟩

/-- What a report says about its query. The tokens that are terms are reported as terms and the
others as dropped, both in the order of the query; a reported term is its token taken apart, with
the value of its raw value; and the document is what the reported constraints add up to. -/
structure Report.AccountsFor (report : Report) (policies : Policies) (settings : RenderSettings)
    (query : Option Text) : Prop where
  tokens : report.terms.map ReportedTerm.token = (Query.tokens (query.getD [])).filter isTerm
  dropped : report.droppedTerms = (Query.tokens (query.getD [])).filter fun token => !isTerm token
  warnings : report.warnings = report.droppedTerms.map dropWarning
  term : ∀ reported ∈ report.terms, Term.ofToken? reported.token = some reported.term
  parts : ∀ reported ∈ report.terms,
    reported.field ++ reported.operator.symbol ++ reported.rawValue = reported.token
  value : ∀ reported ∈ report.terms, ∀ field,
    Value.ofRaw policies.matching field reported.rawValue = .ok reported.value
  document : addAll (report.terms.map ReportedTerm.constraint) = .ok report.document
  rendered : report.document.render settings = .ok report.filter
  filter : compileQuery policies settings query = .ok report.filter

/-- A report leaves out no token of its query, and its parts agree with each other. -/
theorem accountsFor_of_compileReport (policies : Policies) (settings : RenderSettings)
    (query : Option Text) (report : Report)
    (h : compileReport policies settings query = .ok report) :
    report.AccountsFor policies settings query := by
  obtain ⟨run, hrun, hrender, hdocument, hterms, hdropped, hwarnings⟩ :=
    exists_run_of_compileReport h
  have haccounts := Run.accounts_of_run? hrun
  -- an applied term was read from a token, and that token is its source
  have hofToken : ∀ pair ∈ run.applied, Term.ofToken? pair.1.source = some pair.1 := by
    intro pair hpair
    have hmem : pair.1 ∈ (Query.tokens (query.getD [])).filterMap Term.ofToken? := by
      rw [← haccounts.terms]
      exact List.mem_map_of_mem hpair
    obtain ⟨token, -, hterm⟩ := List.mem_filterMap.1 hmem
    rw [(Term.source_ofToken? hterm).1, hterm]
  refine ⟨?_, ?_, ?_, ?_, ?_, ?_, ?_, ?_, ?_⟩
  · rw [hterms, ← map_source_filterMap_ofToken?, ← haccounts.terms, List.map_map, List.map_map]
    rfl
  · rw [hdropped, haccounts.dropped]
  · rw [hwarnings, hdropped]
  · rw [hterms, List.forall_mem_map]
    exact hofToken
  · rw [hterms, List.forall_mem_map]
    intro pair hpair
    exact (Term.source_ofToken? (hofToken pair hpair)).2.symm
  · rw [hterms, List.forall_mem_map]
    exact haccounts.values
  · rw [hterms, hdocument, List.map_map]
    exact haccounts.document
  · rw [hdocument, hrender]
  · rw [← compileReport_filter, h]
    rfl

/-- A dropped token between terms, and a comparison that takes the place of an earlier one. -/
theorem accountsFor_of_compileReport_dropped :
    ∃ report, compileReport {} {} (some "n>a oops t:\"x y\" n<b n>c".toList) = .ok report ∧
      report.AccountsFor {} {} (some "n>a oops t:\"x y\" n<b n>c".toList) ∧
      report.droppedTerms = ["oops".toList] ∧
      report.document = ⟨[(['n'], .comparisons [(.greater, .string ['c']), (.less, .string ['b'])]),
        (['t'], .scalar (.string "x y".toList))]⟩ := by
  have h : compileReport {} {} (some "n>a oops t:\"x y\" n<b n>c".toList) = .ok
      { filter := "\x7b\"n\":\x7b\"$gt\":\"c\",\"$lt\":\"b\"\x7d,\"t\":\"x y\"\x7d".toList
        document := ⟨[(['n'], .comparisons [(.greater, .string ['c']), (.less, .string ['b'])]),
          (['t'], .scalar (.string "x y".toList))]⟩
        terms := [⟨"n>a".toList, ['n'], .comparison .greater, ['a'], .string ['a']⟩,
          ⟨"t:\"x y\"".toList, ['t'], .equality, "\"x y\"".toList, .string "x y".toList⟩,
          ⟨"n<b".toList, ['n'], .comparison .less, ['b'], .string ['b']⟩,
          ⟨"n>c".toList, ['n'], .comparison .greater, ['c'], .string ['c']⟩]
        droppedTerms := ["oops".toList]
        warnings := ["Ignored term that does not parse: 'oops'".toList] } := by
    decide +kernel
  exact ⟨_, h, accountsFor_of_compileReport _ _ _ _ h, rfl, rfl⟩

end SearchFilter
