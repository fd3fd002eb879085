import SearchFilter.Proofs.Document.Grouping

/-!
# Runs that go on after a refusal

Each constraint of such a run is attempted: it joins the document, or the document stays as it is.
What a single attempt can do is said once, in `Joins` and `attempt_refused_iff`; the rest follows
for runs of any length.

* `isProper_attemptAll`: the document stays proper.
* `names_attemptAll`: fields stand in the order of their first attempts.
* `attemptAll_invariants`: what every run keeps, and what each attempt does.
-/

namespace SearchFilter

/-! ### Attempts -/

namespace Document

/-- The document after attempts one by one, whatever becomes of each. -/
def attemptAll (document : Document) (constraints : List Constraint) : Document :=
  constraints.foldl (fun reached constraint => (reached.attempt constraint).1) document

theorem attemptAll_append_singleton (document : Document) (constraints : List Constraint)
    (constraint : Constraint) :
    document.attemptAll (constraints ++ [constraint]) =
      ((document.attemptAll constraints).attempt constraint).1 := by
  rw [attemptAll, List.foldl_append]
  rfl

/-- What every attempt keeps, all attempts keep. -/
theorem attemptAll_induction {motive : Document → Prop} {document : Document}
    (hstart : motive document)
    (hstep : ∀ reached constraint, motive reached → motive (reached.attempt constraint).1)
    (constraints : List Constraint) : motive (document.attemptAll constraints) := by
  induction constraints using List.reverseRecOn with
  | nil => exact hstart
  | append_singleton constraints constraint ih =>
    rw [attemptAll_append_singleton]
    exact hstep _ constraint ih

end Document

/-! ### Proper documents -/

/-- The names that comparisons have in a filter. -/
def Comparison.filterKeys : List Text :=
  ["$gte".toList, "$lte".toList, "$gt".toList, "$lt".toList, "$ne".toList]

/-- An entry is one value, or at least one comparison and at most one of each name. -/
inductive Entry.IsProper : Entry → Prop
  | scalar (value : Value) : IsProper (.scalar value)
  | comparisons {values : OrderedMap Comparison Value} (hne : values ≠ [])
      (hnodup : (values.keys.map Comparison.filterKey).Nodup)
      (hkeys : ∀ key ∈ values.keys.map Comparison.filterKey, key ∈ Comparison.filterKeys) :
      IsProper (.comparisons values)

theorem Comparison.filterKey_mem_filterKeys (c : Comparison) : c.filterKey ∈ filterKeys := by
  cases c <;> decide

/-- Comparisons are told apart by their names. -/
theorem Entry.isProper_comparisons_iff {values : OrderedMap Comparison Value} :
    IsProper (.comparisons values) ↔ values ≠ [] ∧ values.keys.Nodup := by
  have hinj : Function.Injective Comparison.filterKey := fun _ _ => Comparison.filterKey_inj.1
  constructor
  · intro h
    cases h with
    | comparisons hne hnodup hkeys => exact ⟨hne, hnodup.of_map _⟩
  · rintro ⟨hne, hnodup⟩
    refine .comparisons hne (hnodup.map hinj) fun key hkey => ?_
    obtain ⟨c, -, rfl⟩ := List.mem_map.1 hkey
    exact c.filterKey_mem_filterKeys

/-- A constraint that joins a proper entry leaves a proper one. -/
theorem Entry.isProper_join? {held : Option Entry} {operator : Operator} {value : Value}
    {entry : Entry} (hheld : ∀ old, held = some old → old.IsProper)
    (h : join? held operator value = some entry) : entry.IsProper := by
  cases held with
  | none =>
    cases operator with
    | equality =>
      obtain rfl := Option.some.inj h
      exact .scalar value
    | comparison c =>
      obtain rfl := Option.some.inj h
      rw [isProper_comparisons_iff]
      exact ⟨List.cons_ne_nil _ _, List.nodup_singleton c⟩
  | some old =>
    cases old with
    | scalar old => simp [join?] at h
    | comparisons values =>
      cases operator with
      | equality => simp [join?] at h
      | comparison c =>
        obtain rfl := Option.some.inj h
        -- a comparison that is put into a proper map leaves its keys distinct
        have hvalues := hheld _ rfl
        rw [isProper_comparisons_iff] at hvalues ⊢
        exact ⟨OrderedMap.put_ne_nil values c value, OrderedMap.nodup_keys_put hvalues.2 c value⟩

namespace Document

/-- Every field occurs once, and every entry is proper. -/
structure IsProper (document : Document) : Prop where
  names : document.names.Nodup
  entries : ∀ pair ∈ document.fields, pair.2.IsProper

theorem isProper_empty : empty.IsProper where
  names := List.nodup_nil
  entries := List.forall_mem_nil _

/-! ### What an attempt does -/

variable {document next : Document} {constraint : Constraint} {error : QueryError}

/-- A value refuses every constraint, comparisons refuse an equality, and nothing else is
refused. The error names the field, what it holds and what came. -/
theorem attempt_refused_iff :
    (document.attempt constraint).2 = some error ↔
      ∃ held, document.get? constraint.field = some held ∧
        ((∃ value, held = .scalar value) ∨
          (∃ values, held = .comparisons values) ∧ constraint.operator = .equality) ∧
        error = .fieldConflict constraint.field (Slot.ofEntry held).words
          (describe constraint.operator) := by
  rw [← add_eq_error_iff_attempt, add_eq_error_iff]
  refine exists_congr fun held => ?_
  rw [Clashes, and_assoc]
  refine and_congr_right fun _ => and_congr_left fun _ => ?_
  cases held with
  | scalar value => simp
  | comparisons values => simp

/-- What a constraint does that is not refused. Names and comparisons keep their places, and what
is new comes last; the other fields are left alone. -/
structure Joins (document : Document) (constraint : Constraint) (next : Document) : Prop where
  names : next.names =
    if constraint.field ∈ document.names then document.names
    else document.names ++ [constraint.field]
  size : next.size =
    if document.get? constraint.field = none then document.size + 1 else document.size
  others : ∀ field, field ≠ constraint.field → next.get? field = document.get? field
  equality : constraint.operator = .equality →
    document.get? constraint.field = none ∧
      next.get? constraint.field = some (.scalar constraint.value)
  comparison : ∀ c, constraint.operator = .comparison c →
    ∃ values, next.get? constraint.field = some (.comparisons values) ∧
      (document.get? constraint.field = none → values = [(c, constraint.value)]) ∧
      ∀ old, document.get? constraint.field = some (.comparisons old) →
        (values.keys = if c ∈ old.keys then old.keys else old.keys ++ [c]) ∧
        ∀ k, values.get? k = if k = c then some constraint.value else old.get? k

theorem size_eq_length_names (document : Document) : document.size = document.names.length :=
  (List.length_map _).symm

theorem get?_eq_none_iff {field : Text} : document.get? field = none ↔ field ∉ document.names :=
  OrderedMap.get?_eq_none_iff

theorem joins_of_add (h : document.add constraint = .ok next) :
    document.Joins constraint next := by
  obtain ⟨entry, hjoin, rfl⟩ := add_eq_ok_iff.1 h
  have hnames : names ⟨document.fields.put constraint.field entry⟩ =
      if constraint.field ∈ document.names then document.names
      else document.names ++ [constraint.field] := by
    by_cases hmem : constraint.field ∈ document.names
    · rw [if_pos hmem]
      exact (OrderedMap.keys_put _ _ _).trans (if_pos hmem)
    · rw [if_neg hmem]
      exact (OrderedMap.keys_put _ _ _).trans (if_neg hmem)
  have hget : ∀ field, get? ⟨document.fields.put constraint.field entry⟩ field =
      if field = constraint.field then some entry else document.get? field :=
    OrderedMap.get?_put _ _ _
  have hown : get? ⟨document.fields.put constraint.field entry⟩ constraint.field = some entry := by
    rw [hget, if_pos rfl]
  refine ⟨hnames, ?_, fun field hfield => by rw [hget, if_neg hfield], ?_, ?_⟩
  · rw [size_eq_length_names, hnames]
    by_cases hmem : constraint.field ∈ document.names
    · rw [if_pos hmem, if_neg (mt get?_eq_none_iff.1 (not_not_intro hmem)), size_eq_length_names]
    · rw [if_neg hmem, if_pos (get?_eq_none_iff.2 hmem), size_eq_length_names,
        List.length_append, List.length_singleton]
  · intro hoperator
    rw [hoperator] at hjoin
    cases hheld : document.get? constraint.field with
    | none =>
      rw [hheld] at hjoin
      rw [hown, Option.some.inj hjoin]
      exact ⟨rfl, rfl⟩
    | some held =>
      -- no entry takes an equality
      rw [hheld] at hjoin
      cases held <;> cases hjoin
  · intro c hoperator
    rw [hoperator] at hjoin
    cases hheld : document.get? constraint.field with
    | none =>
      rw [hheld] at hjoin
      refine ⟨[(c, constraint.value)], ?_, fun _ => rfl, nofun⟩
      rw [hown, Option.some.inj hjoin]
    | some held =>
      rw [hheld] at hjoin
      cases held with
      | scalar value => cases hjoin
      | comparisons old =>
        refine ⟨old.put c constraint.value, ?_, nofun, ?_⟩
        · rw [hown, Option.some.inj hjoin]
        · intro old' hold
          obtain rfl : old = old' := Entry.comparisons.inj (Option.some.inj hold)
          exact ⟨OrderedMap.keys_put _ _ _, OrderedMap.get?_put _ _ _⟩

/-- What is left behind without an error is what adding gives. -/
theorem add_eq_ok_of_attempt (h : (document.attempt constraint).2 = none) :
    document.add constraint = .ok (document.attempt constraint).1 :=
  add_eq_ok_iff_attempt.2 (Prod.ext rfl h)

theorem joins_of_attempt (h : (document.attempt constraint).2 = none) :
    document.Joins constraint (document.attempt constraint).1 :=
  joins_of_add (add_eq_ok_of_attempt h)

/-! ### What attempts keep -/

theorem isProper_add (h : document.IsProper) (hadd : document.add constraint = .ok next) :
    next.IsProper := by
  obtain ⟨entry, hjoin, rfl⟩ := add_eq_ok_iff.1 hadd
  refine ⟨OrderedMap.nodup_keys_put h.names _ _, fun pair hpair => ?_⟩
  rcases OrderedMap.mem_put hpair with rfl | hpair
  · refine Entry.isProper_join? (fun old hold => ?_) hjoin
    exact h.entries _ (OrderedMap.mem_of_get? hold)
  · exact h.entries pair hpair

theorem isProper_attempt (h : document.IsProper) (constraint : Constraint) :
    (document.attempt constraint).1.IsProper := by
  cases hresult : (document.attempt constraint).2 with
  | none => exact isProper_add h (add_eq_ok_of_attempt hresult)
  | some error =>
    rw [attempt_of_refused hresult]
    exact h

theorem isProper_attemptAll (h : document.IsProper) (constraints : List Constraint) :
    (document.attemptAll constraints).IsProper :=
  attemptAll_induction h (fun _ constraint hreached => isProper_attempt hreached constraint)
    constraints

/-- A refused constraint met an entry, so either way its field is among the names afterwards. -/
theorem names_attempt (document : Document) (constraint : Constraint) :
    (document.attempt constraint).1.names =
      if constraint.field ∈ document.names then document.names
      else document.names ++ [constraint.field] := by
  cases hresult : (document.attempt constraint).2 with
  | none => exact (joins_of_attempt hresult).names
  | some error =>
    obtain ⟨held, hheld, -⟩ := attempt_refused_iff.1 hresult
    have hmem : constraint.field ∈ document.names := by
      by_contra hno
      rw [get?_eq_none_iff.2 hno] at hheld
      cases hheld
    rw [attempt_of_refused hresult, if_pos hmem]

/-- The fields of a document stand in the order in which they were first attempted. -/
theorem names_attemptAll (constraints : List Constraint) :
    (empty.attemptAll constraints).names = (constraints.map Constraint.field).eraseDups := by
  induction constraints using List.reverseRecOn with
  | nil => rfl
  | append_singleton constraints constraint ih =>
    rw [attemptAll_append_singleton, names_attempt, ih, List.map_append, List.map_singleton]
    simp only [List.mem_eraseDups]
    by_cases hmem : constraint.field ∈ constraints.map Constraint.field
    · rw [if_pos hmem, OrderedMap.eraseDups_append_of_mem hmem]
    · rw [if_neg hmem, OrderedMap.eraseDups_append_of_not_mem hmem]

theorem get?_attempt_of_scalar {field : Text} {value : Value}
    (h : document.get? field = some (.scalar value)) (constraint : Constraint) :
    (document.attempt constraint).1.get? field = some (.scalar value) := by
  cases hresult : (document.attempt constraint).2 with
  | some error => rw [attempt_of_refused hresult, h]
  | none =>
    -- a constraint on that field would have been refused
    have hother : field ≠ constraint.field := by
      rintro rfl
      have hrefused := attempt_refused_iff.2 ⟨_, h, Or.inl ⟨value, rfl⟩, rfl⟩
      rw [hresult] at hrefused
      cases hrefused
    rw [(joins_of_attempt hresult).others field hother, h]

/-- A value that a field must equal stays for the rest of a run. -/
theorem get?_attemptAll_of_scalar {field : Text} {value : Value}
    (h : document.get? field = some (.scalar value)) (constraints : List Constraint) :
    (document.attemptAll constraints).get? field = some (.scalar value) :=
  attemptAll_induction (motive := fun reached => reached.get? field = some (.scalar value)) h
    (fun _ constraint hreached => get?_attempt_of_scalar hreached constraint) constraints

theorem attemptAll_append (document : Document) (constraints more : List Constraint) :
    document.attemptAll (constraints ++ more) =
      (document.attemptAll constraints).attemptAll more := List.foldl_append

/-- **Whatever is attempted**, in any order and however much of it is refused, the document stays
proper, with its fields in the order of their first attempts. A further constraint is refused by
a value, or as an equality by comparisons, and then changes nothing; if it is not refused it
joins; and a value stays where it is, whatever comes after it. -/
theorem attemptAll_invariants (constraints : List Constraint) :
    (empty.attemptAll constraints).IsProper ∧
      (empty.attemptAll constraints).names = (constraints.map Constraint.field).eraseDups ∧
      (∀ constraint error,
        ((empty.attemptAll constraints).attempt constraint).2 = some error ↔
          ∃ held, (empty.attemptAll constraints).get? constraint.field = some held ∧
            ((∃ value, held = .scalar value) ∨
              (∃ values, held = .comparisons values) ∧ constraint.operator = .equality) ∧
            error = .fieldConflict constraint.field (Slot.ofEntry held).words
              (describe constraint.operator)) ∧
      (∀ constraint error,
        ((empty.attemptAll constraints).attempt constraint).2 = some error →
          empty.attemptAll (constraints ++ [constraint]) = empty.attemptAll constraints) ∧
      (∀ constraint, ((empty.attemptAll constraints).attempt constraint).2 = none →
        (empty.attemptAll constraints).Joins constraint
          (empty.attemptAll (constraints ++ [constraint]))) ∧
      ∀ field value more,
        (empty.attemptAll constraints).get? field = some (.scalar value) →
          (empty.attemptAll (constraints ++ more)).get? field = some (.scalar value) := by
  refine ⟨isProper_attemptAll isProper_empty constraints, names_attemptAll constraints,
    fun constraint error => attempt_refused_iff, ?_, ?_, ?_⟩
  · intro constraint error h
    rw [attemptAll_append_singleton, attempt_of_refused h]
  · intro constraint h
    rw [attemptAll_append_singleton]
    exact joins_of_attempt h
  · intro field value more h
    rw [attemptAll_append]
    exact get?_attemptAll_of_scalar h more

end Document

end SearchFilter
