import SearchFilter.Proofs.Compile.Normal
import SearchFilter.Proofs.Document.Held

/-!
# What the records of a run say

A dropped token makes a record, and so does a comparison that finds a value of its kind on its
field; nothing else does. So the records can be told from the tokens, and with them the document
accounts for every term of the query: its value is held, or the record of a later term tells that it
was overwritten.

* `Takes.events_eq`: the records of one step.
* `isRecorded_of_run?`: the records of a run.
* `isRecorded_of_compileQuery`: the records of a query, its dropped tokens and its overwritten
  values.
-/

namespace SearchFilter

/-! ### Records of tokens -/

/-- The field and the operator under which a record tells that a value was overwritten. -/
def Event.site? : Event → Option (Text × Operator)
  | dropped _ => none
  | overwritten comparison field => some (field, .comparison comparison)

/-- The records that a token makes behind some terms. A term makes one if it is a comparison and an
earlier term has its field and its operator. -/
def recordsOf (earlier : List Term) (token : Text) : List Event :=
  match Term.ofToken? token with
  | none => [.dropped token]
  | some term =>
    match term.operator with
    | .equality => []
    | .comparison c =>
      if ∃ other ∈ earlier, other.field = term.field ∧ other.operator = .comparison c then
        [.overwritten c term.field]
      else []

/-- The records that tokens make, each behind the terms in front of it. -/
def records (tokens : List Text) : List Event :=
  tokens.zipIdx.flatMap fun (token, k) =>
    recordsOf ((tokens.take k).filterMap Term.ofToken?) token

/-- A further token makes its records behind those of the others. -/
theorem records_append_singleton (tokens : List Text) (token : Text) :
    records (tokens ++ [token]) =
      records tokens ++ recordsOf (tokens.filterMap Term.ofToken?) token := by
  have hlast : recordsOf (((tokens ++ [token]).take tokens.length).filterMap Term.ofToken?) token =
      recordsOf (tokens.filterMap Term.ofToken?) token := by
    rw [List.take_left]
  -- no token in front sees the further one among the terms before it
  have hfront : ∀ entry ∈ tokens.zipIdx,
      recordsOf (((tokens ++ [token]).take entry.2).filterMap Term.ofToken?) entry.1 =
        recordsOf ((tokens.take entry.2).filterMap Term.ofToken?) entry.1 := by
    intro entry hentry
    have hlt := List.snd_lt_of_mem_zipIdx hentry
    rw [List.take_append_of_le_length (by omega)]
  rw [records, List.zipIdx_append, List.flatMap_append, List.zipIdx_singleton,
    List.flatMap_singleton, Nat.zero_add, ← hlast, records]
  exact congrArg (· ++ _) (List.flatMap_congr hfront)

namespace Run

variable {policies : Policies} {run next reached : Run} {token : Text} {tokens : List Text}

/-- The fields and operators of the applied terms. -/
def sites (run : Run) : List (Text × Operator) :=
  run.applied.map fun pair => (pair.1.field, pair.1.operator)

/-- What a document holds are the values of the terms that were applied, the last one for each field
and operator. -/
def HoldsLatest (run : Run) : Prop :=
  ∀ field operator, run.document.value? field operator =
    (run.applied.reverse.find? fun pair =>
      pair.1.field = field ∧ pair.1.operator = operator).map Prod.snd

theorem HoldsLatest.step (h : run.HoldsLatest) (htakes : Takes policies run token next) :
    next.HoldsLatest := by
  cases htakes with
  | drop hterm hpolicy => exact h
  | @apply term value document hterm hvalue hadd =>
    intro field operator
    show document.value? field operator =
      ((run.applied ++ [(term, value)]).reverse.find? _).map Prod.snd
    rw [Document.value?_add hadd, List.reverse_append, List.reverse_singleton,
      List.singleton_append, List.find?_cons]
    by_cases hsite : field = term.field ∧ operator = term.operator
    · obtain ⟨rfl, rfl⟩ := hsite
      simp [constraintOf]
    · have hother : ¬ (term.field = field ∧ term.operator = operator) := fun hboth =>
        hsite ⟨hboth.1.symm, hboth.2.symm⟩
      rw [constraintOf, if_neg hsite, decide_eq_false hother, h field operator]

theorem HoldsLatest.isSome_iff (h : run.HoldsLatest) (field : Text) (operator : Operator) :
    (run.document.value? field operator).isSome = true ↔
      ∃ term ∈ run.applied.map Prod.fst, term.field = field ∧ term.operator = operator := by
  rw [h, Option.isSome_map, List.find?_isSome]
  simp

/-- The records of one step are those of its token behind the terms applied so far. -/
theorem Takes.events_eq (h : Takes policies run token next) (hlatest : run.HoldsLatest) :
    next.events = run.events ++ recordsOf (run.applied.map Prod.fst) token := by
  cases h with
  | drop hterm hpolicy => rw [recordsOf, hterm]
  | @apply term value document hterm hvalue hadd =>
    have hrecords : (run.document.overwritten? (constraintOf term value)).toList.map
        (Event.overwritten · term.field) = recordsOf (run.applied.map Prod.fst) token := by
      simp only [recordsOf, hterm]
      -- only a comparison can be overwritten
      cases hoperator : term.operator with
      | equality =>
        have hnone : run.document.overwritten? (constraintOf term value) = none :=
          Document.overwritten?_of_equality hoperator
        rw [hnone]
        rfl
      | comparison c =>
        have hsome : run.document.overwritten? (constraintOf term value) =
            if (run.document.value? term.field (.comparison c)).isSome then some c else none :=
          Document.overwritten?_of_comparison hoperator
        simp only [hsome, hlatest.isSome_iff]
        split_ifs
        · rfl
        · rfl
    rw [← hrecords]

/-- What is recorded of a term that is added: that it overwrote a value, if there was one. -/
theorem filterMap_site?_overwritten {constraint : Constraint} {document next : Document}
    (h : document.add constraint = .ok next) :
    ((document.overwritten? constraint).toList.map
        (Event.overwritten · constraint.field)).filterMap Event.site? =
      (document.value? constraint.field constraint.operator).toList.map fun _ =>
        (constraint.field, constraint.operator) := by
  have hsame := congrArg (Option.map (Prod.mk constraint.field)) (Document.overwritten?_of_add h)
  have hlist := congrArg Option.toList hsame
  simp only [Option.toList_map, List.map_map, Function.comp_def] at hlist
  rw [List.filterMap_map, ← hlist]
  exact congrFun List.filterMap_eq_map' _

/-! ### Accounts of terms -/

/-- The terms applied at a field and an operator are as many as the values that the document holds
there and the records of values overwritten there. -/
def IsSettledAt (run : Run) (site : Text × Operator) : Prop :=
  run.sites.count site = (run.document.value? site.1 site.2).toList.length +
    (run.events.filterMap Event.site?).count site

theorem Takes.isSettledAt {site : Text × Operator} (h : Takes policies run token next)
    (hrun : run.IsSettledAt site) : next.IsSettledAt site := by
  rw [IsSettledAt, sites] at hrun ⊢
  cases h with
  | drop hterm hpolicy =>
    have hevents : (run.events ++ [Event.dropped token]).filterMap Event.site? =
        run.events.filterMap Event.site? := by
      rw [List.filterMap_append]
      exact List.append_nil _
    rw [hevents, hrun]
  | @apply term value document hterm hvalue hadd =>
    have hrecorded := filterMap_site?_overwritten hadd
    have hheld := Document.value?_add hadd site.1 site.2
    simp only [constraintOf] at hrecorded hheld
    simp only [constraintOf, List.map_append, List.filterMap_append, List.count_append, hrecorded,
      hheld, hrun]
    by_cases hsite : site = (term.field, term.operator)
    · -- one term more, and the value that was there is now one that was overwritten
      subst hsite
      simp [List.map_const']
      omega
    · have hne : ¬ (site.1 = term.field ∧ site.2 = term.operator) := fun hboth =>
        hsite (Prod.ext hboth.1 hboth.2)
      have hother : (term.field, term.operator) ≠ site := Ne.symm hsite
      simp [hne, hother, List.map_const', List.count_replicate]

/-- The applied terms are as many as the values of the document and the records of values that were
overwritten. -/
def IsBalanced (run : Run) : Prop :=
  run.applied.length = run.document.scalarCount + run.document.comparisonCount +
    run.events.countP fun event => !event.isDrop

theorem Takes.isBalanced (h : Takes policies run token next) (hrun : run.IsBalanced) :
    next.IsBalanced := by
  rw [IsBalanced] at hrun ⊢
  cases h with
  | drop hterm hpolicy =>
    have hevent : [Event.dropped token].countP (fun event => !event.isDrop) = 0 := rfl
    rw [List.countP_append, hevent, hrun]
    rfl
  | @apply term value document hterm hvalue hadd =>
    have hcount := Document.count_add hadd
    have hevents : ((run.document.overwritten? (constraintOf term value)).toList.map
        (Event.overwritten · term.field)).countP (fun event => !event.isDrop) =
        (run.document.overwritten? (constraintOf term value)).toList.length := by
      rw [List.countP_map]
      exact List.countP_eq_length.2 fun _ _ => rfl
    rw [List.countP_append, hevents, List.length_append, List.length_singleton, hrun]
    show _ = document.scalarCount + document.comparisonCount + _
    omega

/-- What the records of a run say, beside its accounts. Each token has made its records behind the
terms in front of it; the records of dropped tokens are those of the tokens that were dropped, in
order; and of the applied terms the document holds the last one at each field and operator, with a
record for each of the others. -/
structure IsRecorded (policies : Policies) (tokens : List Text) (run : Run) : Prop where
  accounts : Accounts policies tokens run
  events : run.events = records tokens
  drops : run.events.filter Event.isDrop = run.dropped.map .dropped
  latest : run.HoldsLatest
  sites : ∀ site, run.IsSettledAt site
  balance : run.IsBalanced

theorem isRecorded_nil (policies : Policies) : IsRecorded policies [] {} where
  accounts := accounts_nil policies
  events := rfl
  drops := rfl
  latest := fun _ _ => rfl
  sites := fun _ => rfl
  balance := rfl

theorem Takes.filter_isDrop (h : Takes policies run token next)
    (hrun : run.events.filter Event.isDrop = run.dropped.map .dropped) :
    next.events.filter Event.isDrop = next.dropped.map .dropped := by
  cases h with
  | drop hterm hpolicy =>
    rw [List.filter_append, hrun, List.map_append]
    rfl
  | apply hterm hvalue hadd =>
    rw [List.filter_append, hrun, List.filter_eq_nil_iff.2, List.append_nil]
    exact List.forall_mem_map.2 fun _ _ => Bool.false_ne_true

theorem IsRecorded.step (h : IsRecorded policies tokens run)
    (htakes : Takes policies run token next) : IsRecorded policies (tokens ++ [token]) next where
  accounts := h.accounts.step htakes
  events := by
    rw [htakes.events_eq h.latest, records_append_singleton, h.events, h.accounts.terms]
  drops := htakes.filter_isDrop h.drops
  latest := h.latest.step htakes
  sites := fun site => htakes.isSettledAt (h.sites site)
  balance := htakes.isBalanced h.balance

theorem isRecorded_of_run? (h : Run.run? policies {} tokens = .ok reached) :
    IsRecorded policies tokens reached :=
  run?_prefix_induction (isRecorded_nil policies) (fun _ _ _ _ hstate htakes => hstate.step htakes)
    h

/-- Wherever a run is stopped, the next token makes the records that it deserves there. -/
theorem exists_turn {before after : List Text}
    (h : Run.run? policies {} (before ++ token :: after) = .ok reached) :
    ∃ state next, Run.run? policies {} before = .ok state ∧ state.step policies token = .ok next ∧
      next.events = state.events ++ recordsOf (state.applied.map Prod.fst) token := by
  rw [run?_append] at h
  cases hstate : Run.run? policies {} before with
  | error failure =>
    rw [hstate] at h
    cases h
  | ok state =>
    simp only [hstate, run?_cons] at h
    cases hnext : state.step policies token with
    | error failure =>
      rw [hnext] at h
      cases h
    | ok next =>
      have hlatest := (isRecorded_of_run? hstate).latest
      exact ⟨state, next, rfl, hnext, (step_eq_ok_iff.1 hnext).events_eq hlatest⟩

end Run

/-! ### Compilations -/

/-- **Nothing disappears without a record.** Of a query that compiles every token has its record in
its turn, if it is dropped or overwrites a value, and none otherwise; and the terms are as many as
the values of the document and the values that were recorded as overwritten, at each field and
operator as well as in all. -/
theorem isRecorded_of_compileQuery (policies : Policies) (settings : RenderSettings)
    (query : Option Text) (filter : Text)
    (h : compileQuery policies settings query = .ok filter) :
    ∃ run, runQuery? policies query = .ok run ∧ run.document.render settings = .ok filter ∧
      run.IsRecorded policies (Query.tokens (query.getD [])) ∧
      ∀ before token after, Query.tokens (query.getD []) = before ++ token :: after →
        ∃ state next, Run.run? policies {} before = .ok state ∧
          state.step policies token = .ok next ∧
          next.events = state.events ++ recordsOf (state.applied.map Prod.fst) token := by
  rw [compileQuery_eq, map_eq_ok_iff] at h
  obtain ⟨run, hrun, rfl⟩ := h
  have hfinite : run.document.toJson.isFinite = true := Run.isFinite_document rfl hrun
  refine ⟨run, hrun, Document.render_eq_ok_iff.2 ⟨Or.inr hfinite, rfl⟩,
    Run.isRecorded_of_run? hrun, fun before token after htokens => ?_⟩
  rw [runQuery?, htokens] at hrun
  exact Run.exists_turn hrun

/-- A dropped token, two comparisons of one kind on a field, and one of that kind on another. -/
theorem isRecorded_of_compileQuery_overwritten :
    let query : Text := "n>a oops m>b n<c n>d".toList
    ∃ run, runQuery? {} (some query) = .ok run ∧
      run.IsRecorded {} (Query.tokens query) ∧
      run.events = [.dropped "oops".toList, .overwritten .greater ['n']] ∧
      run.applied.length = 4 ∧ run.document.scalarCount + run.document.comparisonCount = 3 := by
  intro query
  have h : compileQuery {} {} (some query) = .ok
      "\x7b\"n\":\x7b\"$gt\":\"d\",\"$lt\":\"c\"\x7d,\"m\":\x7b\"$gt\":\"b\"\x7d\x7d".toList := by
    decide +kernel
  obtain ⟨run, hrun, -, hrecorded, -⟩ := isRecorded_of_compileQuery {} {} (some query) _ h
  refine ⟨run, hrun, hrecorded, ?_⟩
  have hreached : runQuery? {} (some query) = .ok
      { document := ⟨[(['n'], .comparisons [(.greater, .string ['d']), (.less, .string ['c'])]),
          (['m'], .comparisons [(.greater, .string ['b'])])]⟩
        applied := [(⟨['n'], .comparison .greater, ['a'], "n>a".toList⟩, .string ['a']),
          (⟨['m'], .comparison .greater, ['b'], "m>b".toList⟩, .string ['b']),
          (⟨['n'], .comparison .less, ['c'], "n<c".toList⟩, .string ['c']),
          (⟨['n'], .comparison .greater, ['d'], "n>d".toList⟩, .string ['d'])]
        dropped := ["oops".toList]
        events := [.dropped "oops".toList, .overwritten .greater ['n']] } := by
    decide +kernel
  rw [hreached] at hrun
  obtain rfl := Except.ok.inj hrun
  exact ⟨rfl, rfl, rfl⟩

end SearchFilter
