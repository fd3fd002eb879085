import SearchFilter.Proofs.Compile.Run
import SearchFilter.Proofs.Document.Grouping
import SearchFilter.Proofs.Query.Clause

/-!
# Compiling a query that was written from constraints

The clauses are the tokens of such a query, each of them is read as the term that it was written
from, and so the run adds the constraints one by one and stops where adding does.

* `document_step_text`: what a clause does to a run.
* `buildDocument_queryText`: what the clauses of a query come to.
-/

namespace SearchFilter

namespace Run

variable {policies : Policies}

/-- The step for a clause adds its constraint, and fails exactly where adding does. -/
theorem document_step_text (hmatching : policies.matching = .anchored) (run : Run) {clause : Clause}
    (h : clause.IsWritable) :
    document <$> run.step policies clause.text =
      (run.document.add clause.constraint).mapError .query := by
  have hterm := Clause.ofToken?_text h
  have hvalue : Value.ofRaw policies.matching (some clause.term.field) clause.term.rawValue =
      .ok clause.literal.value := by
    rw [hmatching]
    exact Literal.ofRaw_text h.literal _
  exact document_step_of_value hterm hvalue

/-- A run over clauses adds their constraints. -/
theorem document_run?_map_text (hmatching : policies.matching = .anchored) (run : Run)
    {clauses : List Clause} (h : ∀ clause ∈ clauses, clause.IsWritable) :
    document <$> run.run? policies (clauses.map Clause.text) =
      ((clauses.map Clause.constraint).foldlM Document.add run.document).mapError .query := by
  induction clauses generalizing run with
  | nil => rfl
  | cons clause clauses ih =>
    obtain ⟨hclause, hrest⟩ := List.forall_mem_cons.1 h
    have hstep := document_step_text hmatching run hclause
    rw [List.map_cons, List.map_cons, run?_cons]
    cases hadd : run.document.add clause.constraint with
    | ok document =>
      rw [foldlM_cons_of_ok hadd]
      rw [hadd] at hstep
      cases hnext : run.step policies clause.text with
      | ok next =>
        rw [hnext] at hstep
        have hdocument : next.document = document := Except.ok.inj hstep
        rw [← hdocument]
        exact ih next hrest
      | error failure =>
        rw [hnext] at hstep
        cases hstep
    | error error =>
      -- both stop here, with one and the same conflict
      rw [foldlM_cons_of_error hadd]
      rw [hadd] at hstep
      cases hnext : run.step policies clause.text with
      | ok next =>
        rw [hnext] at hstep
        cases hstep
      | error failure =>
        rw [hnext] at hstep
        exact congrArg Except.error (Except.error.inj hstep)

end Run

/-- A query that was written from constraints builds the document that they add up to, or fails
with their conflict. -/
theorem buildDocument_queryText (clauses : List Clause)
    (h : ∀ clause ∈ clauses, clause.IsWritable) (unparsed : Unparsed) :
    buildDocument ⟨.anchored, unparsed⟩ (some (Clause.queryText clauses)) =
      (addAll (clauses.map Clause.constraint)).mapError .query := by
  rw [buildDocument, runQuery?, Option.getD_some, Clause.tokens_queryText h]
  exact Run.document_run?_map_text rfl {} h

/-- Symbols that contain one another, and strings with all that a string may hold. -/
theorem buildDocument_queryText_mixed :
    let clauses : List Clause :=
      [⟨"n!=".toList, .comparison .greaterOrEqual, .number ⟨true, [0, 4], [5, 0], by decide⟩⟩,
        ⟨"n!=".toList, .comparison .greater, .string "=1  \x1f!".toList⟩,
        ⟨"t".toList, .equality, .string ":!true 12".toList⟩,
        ⟨"n!=".toList, .comparison .notEqual, .boolean false⟩]
    (∀ clause ∈ clauses, clause.IsWritable) ∧
      Clause.queryText clauses =
        "n!=>=-04.50 n!=>\"=1  \x1f!\" t:\":!true 12\" n!=!:false".toList ∧
      buildDocument ⟨.anchored, .error⟩ (some (Clause.queryText clauses)) =
        (addAll (clauses.map Clause.constraint)).mapError .query ∧
      addAll (clauses.map Clause.constraint) = .ok ⟨[("n!=".toList, .comparisons
        [(.greaterOrEqual, .number (Binary64.ofDecimal ⟨true, 45, -1⟩)),
          (.greater, .string "=1  \x1f!".toList), (.notEqual, .boolean false)]),
        ("t".toList, .scalar (.string ":!true 12".toList))]⟩ := by
  intro clauses
  have h : ∀ clause ∈ clauses, clause.IsWritable := by decide +kernel
  exact ⟨h, by decide +kernel, buildDocument_queryText clauses h .error, by decide +kernel⟩

end SearchFilter
