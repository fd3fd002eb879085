import SearchFilter.Proofs.Compile.Outcome
import SearchFilter.Proofs.Document.Attempts
import SearchFilter.Proofs.Query.Tokens

/-!
# Queries one behind the other

The tokens of such a query are those of its parts, provided that no quotation of the first part is
left open for a quote of the second; the run over them is the run over the first part, continued. It
fails where that fails, and as far as the parts constrain different fields the second one runs as it
would alone.

* `run?_of_disjoint`: a run behind constraints on other fields.
* `compileReport_append_space`: the report of two queries with a space between them.
-/

namespace SearchFilter

namespace Run

variable {policies : Policies} {run next reached : Run} {token : Text} {tokens : List Text}

/-! ### What a run adds -/

/-- A run has all that another one had applied, dropped and recorded, and maybe more. -/
structure Extends (run next : Run) : Prop where
  applied : run.applied <+: next.applied
  dropped : run.dropped <+: next.dropped
  events : run.events <+: next.events

theorem Extends.refl (run : Run) : run.Extends run where
  applied := List.prefix_rfl
  dropped := List.prefix_rfl
  events := List.prefix_rfl

theorem Extends.trans (h : run.Extends next) (hmore : next.Extends reached) :
    run.Extends reached where
  applied := h.applied.trans hmore.applied
  dropped := h.dropped.trans hmore.dropped
  events := h.events.trans hmore.events

theorem Takes.extends (h : Takes policies run token next) : run.Extends next := by
  cases h with
  | drop hterm hpolicy => exact ⟨List.prefix_rfl, List.prefix_append _ _, List.prefix_append _ _⟩
  | apply hterm hvalue hadd =>
    exact ⟨List.prefix_append _ _, List.prefix_rfl, List.prefix_append _ _⟩

/-- A run never takes anything back, whether it fails or not. -/
theorem extends_advance (policies : Policies) (run : Run) (tokens : List Text) :
    run.Extends (run.advance policies tokens).1 := by
  induction tokens generalizing run with
  | nil => exact .refl run
  | cons token tokens ih =>
    rw [advance]
    cases hstep : run.step policies token with
    | error failure => exact .refl run
    | ok next => exact (step_eq_ok_iff.1 hstep).extends.trans (ih next)

/-! ### Where a run ends -/

theorem advance_append_of_eq_none (h : run.advance policies tokens = (reached, none))
    (more : List Text) :
    run.advance policies (tokens ++ more) = reached.advance policies more := by
  induction tokens generalizing run with
  | nil =>
    obtain rfl : run = reached := congrArg Prod.fst h
    rfl
  | cons token tokens ih =>
    rw [advance] at h
    rw [List.cons_append, advance]
    cases hstep : run.step policies token with
    | error failure =>
      rw [hstep] at h
      exact absurd (congrArg Prod.snd h) (by simp)
    | ok next =>
      rw [hstep] at h
      exact ih h

/-! ### Runs on other fields -/

/-- All that two runs did, the first one first. -/
def append (first second : Run) : Run where
  document := ⟨first.document.fields ++ second.document.fields⟩
  applied := first.applied ++ second.applied
  dropped := first.dropped ++ second.dropped
  events := first.events ++ second.events

theorem append_empty (first : Run) : first.append {} = first := by
  simp [append, Document.empty]

/-- No step takes a field away. -/
theorem Takes.names_subset (h : Takes policies run token next) :
    run.document.names ⊆ next.document.names := by
  cases h with
  | drop hterm hpolicy => exact List.Subset.refl _
  | apply hterm hvalue hadd =>
    rw [(Document.joins_of_add hadd).names]
    split
    · exact List.Subset.refl _
    · exact List.subset_append_left _ _

/-- A step is the same behind a run on other fields. -/
theorem Takes.append {first : Run} (h : Takes policies run token next)
    (hfresh : ∀ name ∈ next.document.names, name ∉ first.document.names) :
    Takes policies (first.append run) token (first.append next) := by
  cases h with
  | drop hterm hpolicy =>
    have htakes : Takes policies (first.append run) token _ := .drop hterm hpolicy
    simpa only [Run.append, List.append_assoc] using htakes
  | @apply term value document hterm hvalue hadd =>
    obtain ⟨entry, hjoin, rfl⟩ := Document.add_eq_ok_iff.1 hadd
    -- the constraint has put its field among the names, and so it is none of the first run
    have hfield : term.field ∉ first.document.names := by
      refine hfresh _ ?_
      rw [(Document.joins_of_add hadd).names]
      split
      · next hmem => exact hmem
      · exact List.mem_append_right _ (List.mem_singleton_self _)
    have hget : (first.append run).document.get? term.field = run.document.get? term.field :=
      OrderedMap.get?_append_of_not_mem hfield _
    have hput : (first.append run).document.fields.put term.field entry =
        first.document.fields ++ run.document.fields.put term.field entry :=
      OrderedMap.put_append_of_not_mem hfield _ entry
    have hover : (first.append run).document.overwritten? (constraintOf term value) =
        run.document.overwritten? (constraintOf term value) := by
      rw [Document.overwritten?, Document.overwritten?, constraintOf, hget]
    have hadd' : (first.append run).document.add (constraintOf term value) =
        .ok ⟨first.document.fields ++ run.document.fields.put term.field entry⟩ := by
      rw [← hput]
      refine Document.add_of_join? ?_
      rw [← hjoin]
      exact congrArg (Entry.join? · term.operator value) hget
    have htakes := Takes.apply hterm hvalue hadd'
    rw [hover] at htakes
    simpa only [Run.append, List.append_assoc, constraintOf] using htakes

/-- A run is the same behind another one if that one constrains other fields. -/
theorem run?_of_disjoint {first second : Run} (h : Run.run? policies {} tokens = .ok second)
    (hfresh : ∀ name ∈ second.document.names, name ∉ first.document.names) :
    first.run? policies tokens = .ok (first.append second) := by
  -- the fields only grow, so that they are other fields at every point of the run
  refine run?_prefix_induction (motive := fun before state =>
    (∀ name ∈ state.document.names, name ∉ first.document.names) →
      first.run? policies before = .ok (first.append state)) ?_ ?_ h hfresh
  · intro _
    rw [append_empty, run?_nil]
  · intro before state token next hstate htakes hnext
    have hbefore := hstate fun name hname => hnext name (htakes.names_subset hname)
    exact run?_append_of_takes hbefore (htakes.append hnext)

end Run

/-! ### Queries behind one another -/

variable {policies : Policies} {front back : Text}

/-- The run over a query goes on where the run over its first part ended. -/
theorem runQuery_append_space (h : Even (front.count '"') ∨ '"' ∉ back) {first : Run}
    (hfirst : runQuery policies (some front) = (first, none)) :
    runQuery policies (some (front ++ ' ' :: back)) =
      first.advance policies (Query.tokens back) := by
  rw [runQuery, Option.getD_some, Query.tokens_append_space h]
  exact Run.advance_append_of_eq_none hfirst _

/-- The run over a query fails where the run over its first part fails. -/
theorem runQuery?_append_space_of_error (h : Even (front.count '"') ∨ '"' ∉ back)
    {failure : Failure} (hfront : runQuery? policies (some front) = .error failure) :
    runQuery? policies (some (front ++ ' ' :: back)) = .error failure := by
  rw [runQuery?, Option.getD_some] at hfront
  rw [runQuery?, Option.getD_some, Query.tokens_append_space h]
  exact Run.run?_append_of_error hfront _

/-- Queries on different fields come to both runs. -/
theorem runQuery?_append_space (h : Even (front.count '"') ∨ '"' ∉ back) {first second : Run}
    (hfirst : runQuery? policies (some front) = .ok first)
    (hsecond : runQuery? policies (some back) = .ok second)
    (hfresh : ∀ name ∈ second.document.names, name ∉ first.document.names) :
    runQuery? policies (some (front ++ ' ' :: back)) = .ok (first.append second) := by
  rw [runQuery?, Option.getD_some] at hfirst hsecond
  rw [runQuery?, Option.getD_some, Query.tokens_append_space h, Run.run?_append, hfirst]
  exact Run.run?_of_disjoint hsecond hfresh

/-- **One query behind another.** If the quotes of the first are paired, or if the second has none,
then the failure of the first is the failure of both together; the run over the first is continued
by the tokens of the second; and if both succeed and name different fields, the report on both
together is the one report behind the other. -/
theorem compileReport_append_space (policies : Policies) (settings : RenderSettings)
    (front back : Text) (h : Even (front.count '"') ∨ '"' ∉ back) :
    (∀ failure,
      (buildDocument policies (some front) = .error failure →
        buildDocument policies (some (front ++ ' ' :: back)) = .error failure) ∧
      (compileQuery policies settings (some front) = .error failure →
        compileQuery policies settings (some (front ++ ' ' :: back)) = .error failure) ∧
      (compileReport policies settings (some front) = .error failure →
        compileReport policies settings (some (front ++ ' ' :: back)) = .error failure)) ∧
    (∀ first, runQuery policies (some front) = (first, none) →
      runQuery policies (some (front ++ ' ' :: back)) =
          first.advance policies (Query.tokens back) ∧
        first.Extends (runQuery policies (some (front ++ ' ' :: back))).1) ∧
    ∀ first second, compileReport policies settings (some front) = .ok first →
      compileReport policies settings (some back) = .ok second →
        (∀ name ∈ first.document.names, name ∉ second.document.names) →
          ∃ report, compileReport policies settings (some (front ++ ' ' :: back)) = .ok report ∧
            report.document.fields = first.document.fields ++ second.document.fields ∧
            report.terms = first.terms ++ second.terms ∧
            report.droppedTerms = first.droppedTerms ++ second.droppedTerms := by
  refine ⟨fun failure => ?_, fun first hfirst => ?_, ?_⟩
  · -- what is made of a run fails exactly if the run does
    simp only [buildDocument, compileQuery_eq, compileReport_eq_error_iff, map_eq_error_iff]
    have herror : runQuery? policies (some front) = .error failure →
        runQuery? policies (some (front ++ ' ' :: back)) = .error failure :=
      runQuery?_append_space_of_error h
    exact ⟨herror, herror, herror⟩
  · have hrun := runQuery_append_space h hfirst
    refine ⟨hrun, ?_⟩
    rw [hrun]
    exact Run.extends_advance policies first (Query.tokens back)
  · intro first second hfirst hsecond hdisjoint
    rw [compileReport_eq_ok_iff] at hfirst hsecond
    obtain ⟨frontRun, hfront, rfl⟩ := hfirst
    obtain ⟨backRun, hback, rfl⟩ := hsecond
    have hrun := runQuery?_append_space h hfront hback
      fun name hname hmem => hdisjoint name hmem hname
    exact ⟨(frontRun.append backRun).report settings, compileReport_eq_ok_iff.2 ⟨_, hrun, rfl⟩,
      rfl, List.map_append, rfl⟩

/-- A query with a quotation that does not end, in front of one without quotes. -/
theorem compileReport_append_space_open :
    let front : Text := "n>a x t:\"u v".toList
    let back : Text := "m<b y m>c".toList
    (Even (front.count '"') ∨ '"' ∉ back) ∧
      ∃ report, compileReport {} {} (some (front ++ ' ' :: back)) = .ok report ∧
        report.document.fields =
          [(['n'], .comparisons [(.greater, .string ['a'])]),
            (['t'], .scalar (.string ['"', 'u']))] ++
          [(['m'], .comparisons [(.less, .string ['b']), (.greater, .string ['c'])])] ∧
        report.droppedTerms = [['x'], ['v']] ++ [['y']] := by
  intro front back
  have hquotes : Even (front.count '"') ∨ '"' ∉ back := Or.inr (by decide)
  have hfront : compileReport {} {} (some front) = .ok
      { filter := "\x7b\"n\":\x7b\"$gt\":\"a\"\x7d,\"t\":\"\\\"u\"\x7d".toList
        document := ⟨[(['n'], .comparisons [(.greater, .string ['a'])]),
          (['t'], .scalar (.string ['"', 'u']))]⟩
        terms := [⟨"n>a".toList, ['n'], .comparison .greater, ['a'], .string ['a']⟩,
          ⟨"t:\"u".toList, ['t'], .equality, ['"', 'u'], .string ['"', 'u']⟩]
        droppedTerms := [['x'], ['v']]
        warnings := [dropWarning ['x'], dropWarning ['v']] } := by
    decide +kernel
  have hback : compileReport {} {} (some back) = .ok
      { filter := "\x7b\"m\":\x7b\"$lt\":\"b\",\"$gt\":\"c\"\x7d\x7d".toList
        document := ⟨[(['m'], .comparisons [(.less, .string ['b']), (.greater, .string ['c'])])]⟩
        terms := [⟨"m<b".toList, ['m'], .comparison .less, ['b'], .string ['b']⟩,
          ⟨"m>c".toList, ['m'], .comparison .greater, ['c'], .string ['c']⟩]
        droppedTerms := [['y']]
        warnings := [dropWarning ['y']] } := by
    decide +kernel
  obtain ⟨report, hreport, hfields, -, hdropped⟩ :=
    (compileReport_append_space {} {} front back hquotes).2.2 _ _ hfront hback (by decide)
  exact ⟨hquotes, report, hreport, hfields, hdropped⟩

end SearchFilter
