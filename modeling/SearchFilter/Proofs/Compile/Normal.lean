import SearchFilter.Proofs.Compile.Report
import SearchFilter.Proofs.Query.Joined

/-!
# Queries without what they drop

A run that leaves out the tokens that are no terms takes the same steps for the others, whether or
not it could drop any. The terms of a report, written with single spaces between them, are therefore
a query that says the same with nothing to drop.

* `run?_filter_isTerm`: a run over the terms alone.
* `compileReport_normalQuery`: the report of a query that is written from the terms of a report.
-/

namespace SearchFilter

/-! ### Runs over the terms alone -/

/-- Whether a record is that of a dropped token. -/
def Event.isDrop : Event → Bool
  | dropped _ => true
  | overwritten .. => false

namespace Run

/-- A run without the tokens that it dropped, and without their records. -/
def withoutDropped (run : Run) : Run :=
  { run with dropped := [], events := run.events.filter fun event => !event.isDrop }

variable {policies others : Policies} {run next reached : Run} {token : Text} {tokens : List Text}

/-- Dropping a token does nothing else. -/
theorem Takes.withoutDropped_eq (h : Takes policies run token next) (hterm : isTerm token = false) :
    next.withoutDropped = run.withoutDropped := by
  cases h with
  | drop hnone hpolicy =>
    have hevents : (run.events ++ [Event.dropped token]).filter (fun event => !event.isDrop) =
        run.events.filter fun event => !event.isDrop := by
      rw [List.filter_append]
      exact List.append_nil _
    rw [withoutDropped, withoutDropped, hevents]
  | apply hsome hvalue hadd =>
    rw [isTerm_of_ofToken? hsome] at hterm
    cases hterm

/-- A term is taken whether or not tokens were dropped before, and whether or not they may be. -/
theorem Takes.withoutDropped (h : Takes policies run token next) (hterm : isTerm token = true)
    (hmatching : policies.matching = others.matching) :
    Takes others run.withoutDropped token next.withoutDropped := by
  cases h with
  | drop hnone hpolicy =>
    rw [isTerm_of_ofToken?_eq_none hnone] at hterm
    cases hterm
  | @apply term value document hsome hvalue hadd =>
    rw [hmatching] at hvalue
    show Takes others run.withoutDropped token
      { run.withoutDropped with
        document, applied := run.applied ++ [(term, value)]
        events := (run.events ++ (run.document.overwritten? (constraintOf term value)).toList.map
          (Event.overwritten · term.field)).filter fun event => !event.isDrop }
    rw [List.filter_append, List.filter_eq_self.2 (List.forall_mem_map.2 fun _ _ => rfl)]
    exact .apply hsome hvalue hadd

/-- A run over the terms among the tokens comes to the same, with nothing dropped. -/
theorem run?_filter_isTerm (h : Run.run? policies {} tokens = .ok reached)
    (hmatching : policies.matching = others.matching) :
    Run.run? others {} (tokens.filter isTerm) = .ok reached.withoutDropped := by
  refine run?_prefix_induction (motive := fun before state =>
    Run.run? others {} (before.filter isTerm) = .ok state.withoutDropped) rfl
    (fun before state token next hstate htakes => ?_) h
  cases hterm : isTerm token with
  | false =>
    rw [List.filter_append, List.filter_cons_of_neg (by simp [hterm]), List.filter_nil,
      List.append_nil, htakes.withoutDropped_eq hterm]
    exact hstate
  | true =>
    rw [List.filter_append, List.filter_cons_of_pos hterm, List.filter_nil]
    exact run?_append_of_takes hstate (htakes.withoutDropped hterm hmatching)

end Run

/-! ### Reports -/

/-- The query that is made of the reported terms alone. -/
def Report.normalQuery (report : Report) : Text :=
  Query.joined (report.terms.map ReportedTerm.token)

/-- A query without the placeholder is tokenised as before once its tokens are joined with single
spaces. If a lenient compilation reports on it, a strict one reports on the query that is made of
the reported terms, with the same terms, document and filter, and with nothing dropped. -/
theorem compileReport_normalQuery (query : Option Text) (h : placeholder ∉ query.getD []) :
    Query.tokens (Query.joined (Query.tokens (query.getD []))) = Query.tokens (query.getD []) ∧
    ∀ matching settings report, compileReport ⟨matching, .drop⟩ settings query = .ok report →
      compileReport ⟨matching, .error⟩ settings (some report.normalQuery) =
        .ok { report with droppedTerms := [], warnings := [] } := by
  have hsettled := Query.isSettled_tokens h
  refine ⟨hsettled.tokens_joined, fun matching settings report hreport => ?_⟩
  obtain ⟨run, hrun, rfl⟩ := compileReport_eq_ok_iff.1 hreport
  have htokens : (run.report settings).terms.map ReportedTerm.token =
      (Query.tokens (query.getD [])).filter isTerm := by
    rw [← map_source_filterMap_ofToken?, ← (Run.accounts_of_run? hrun).terms, List.map_map]
    exact List.map_map
  have hnormal : Query.tokens (run.report settings).normalQuery =
      (Query.tokens (query.getD [])).filter isTerm := by
    rw [Report.normalQuery, htokens, (hsettled.sublist List.filter_sublist).tokens_joined]
  refine compileReport_eq_ok_iff.2 ⟨run.withoutDropped, ?_, rfl⟩
  rw [runQuery?, Option.getD_some, hnormal]
  exact Run.run?_filter_isTerm hrun rfl

/-- A dropped token in front of the terms, and one behind a term with an open quote. -/
theorem compileReport_normalQuery_open :
    let query : Text := "oops  n>a t:\"x y\" m<\"b v w:c".toList
    placeholder ∉ query ∧
      ∃ report, compileReport {} {} (some query) = .ok report ∧
        report.droppedTerms = ["oops".toList, "v".toList] ∧
        report.normalQuery = "n>a t:\"x y\" m<\"b w:c".toList ∧
        compileReport ⟨.unanchored, .error⟩ {} (some report.normalQuery) =
          .ok { report with droppedTerms := [], warnings := [] } := by
  intro query
  have hplaceholder : placeholder ∉ query := by decide
  have hreport : compileReport {} {} (some query) = .ok
      { filter := "\x7b\"n\":\x7b\"$gt\":\"a\"\x7d,\"t\":\"x y\",".toList ++
          "\"m\":\x7b\"$lt\":\"\\\"b\"\x7d,\"w\":\"c\"\x7d".toList
        document := ⟨[(['n'], .comparisons [(.greater, .string ['a'])]),
          (['t'], .scalar (.string "x y".toList)),
          (['m'], .comparisons [(.less, .string ['"', 'b'])]), (['w'], .scalar (.string ['c']))]⟩
        terms := [⟨"n>a".toList, ['n'], .comparison .greater, ['a'], .string ['a']⟩,
          ⟨"t:\"x y\"".toList, ['t'], .equality, "\"x y\"".toList, .string "x y".toList⟩,
          ⟨"m<\"b".toList, ['m'], .comparison .less, ['"', 'b'], .string ['"', 'b']⟩,
          ⟨"w:c".toList, ['w'], .equality, ['c'], .string ['c']⟩]
        droppedTerms := ["oops".toList, "v".toList]
        warnings := [dropWarning "oops".toList, dropWarning "v".toList] } := by
    decide +kernel
  exact ⟨hplaceholder, _, hreport, rfl, by decide,
    (compileReport_normalQuery (some query) hplaceholder).2 .unanchored {} _ hreport⟩

end SearchFilter
