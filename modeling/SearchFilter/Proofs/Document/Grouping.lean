import SearchFilter.Proofs.Document.Adding
import SearchFilter.Proofs.Fold

/-!
# Documents as groups

Constraints that are added one by one, starting with no field, come to the document that groups them
by field, unless a field has an equality and anything besides it; then adding stops at the first
constraint that meets an entry it cannot join.

* `addAll_eq_grouped`: what constraints come to, told without adding.
-/

namespace SearchFilter

/-! ### The constraints on a field -/

/-- The comparison of a constraint, with its value. -/
def Constraint.comparison? : Constraint → Option (Comparison × Value)
  | ⟨_, .comparison c, value⟩ => some (c, value)
  | ⟨_, .equality, _⟩ => none

theorem Constraint.comparison?_eq_some {constraint : Constraint} {c : Comparison}
    (h : constraint.operator = .comparison c) :
    constraint.comparison? = some (c, constraint.value) := by
  obtain ⟨field, operator, value⟩ := constraint
  subst h
  rfl

/-- What constraints on one field amount to: the value of an equality that stands alone, or the
last value for each kind of comparison. -/
def Entry.ofConstraints : List Constraint → Entry
  | [⟨_, .equality, value⟩] => .scalar value
  | constraints => .comparisons (OrderedMap.latest (constraints.filterMap Constraint.comparison?))

/-- A field without constraints has no entry. -/
def Entry.ofConstraints? (constraints : List Constraint) : Option Entry :=
  if constraints = [] then none else some (ofConstraints constraints)

/-- One equality and nothing else, or no equality at all. -/
def IsUniform (constraints : List Constraint) : Prop :=
  (∃ constraint, constraints = [constraint] ∧ constraint.operator = .equality) ∨
    ∀ constraint ∈ constraints, constraint.operator ≠ .equality

namespace Entry

theorem ofConstraints_equality {constraint : Constraint} (h : constraint.operator = .equality) :
    ofConstraints [constraint] = .scalar constraint.value := by
  obtain ⟨field, operator, value⟩ := constraint
  subst h
  rfl

theorem ofConstraints_comparisons {constraints : List Constraint}
    (h : ∀ constraint ∈ constraints, constraint.operator ≠ .equality) :
    ofConstraints constraints =
      .comparisons (OrderedMap.latest (constraints.filterMap Constraint.comparison?)) := by
  unfold ofConstraints
  split
  · exact absurd rfl (h _ (List.mem_singleton_self _))
  · rfl

end Entry

theorem isUniform_nil : IsUniform [] := Or.inr (List.forall_mem_nil _)

/-- A further constraint keeps a field uniform if the field had none, or if neither side has an
equality. -/
theorem isUniform_append_singleton {constraints : List Constraint} {constraint : Constraint} :
    IsUniform (constraints ++ [constraint]) ↔
      constraints = [] ∨ constraint.operator ≠ .equality ∧
        ∀ earlier ∈ constraints, earlier.operator ≠ .equality := by
  constructor
  · rintro (⟨only, hlist, -⟩ | hall)
    · -- one constraint alone is the last one, so nothing stood before it
      cases constraints with
      | nil => exact Or.inl rfl
      | cons first rest => exact absurd (List.cons.inj hlist).2 (by simp)
    · rw [List.forall_mem_append, List.forall_mem_singleton] at hall
      exact Or.inr ⟨hall.2, hall.1⟩
  · rintro (rfl | ⟨hlast, hall⟩)
    · by_cases hequality : constraint.operator = .equality
      · exact Or.inl ⟨constraint, rfl, hequality⟩
      · exact Or.inr (List.forall_mem_singleton.2 hequality)
    · refine Or.inr ?_
      rw [List.forall_mem_append, List.forall_mem_singleton]
      exact ⟨hall, hlast⟩

theorem IsUniform.of_append_singleton {constraints : List Constraint} {constraint : Constraint}
    (h : IsUniform (constraints ++ [constraint])) : IsUniform constraints := by
  rcases isUniform_append_singleton.1 h with rfl | ⟨-, hearlier⟩
  · exact isUniform_nil
  · exact Or.inr hearlier

/-- A constraint that keeps its field uniform joins the entry, and the entry it leaves is that
of all the constraints. -/
theorem join?_ofConstraints? {constraints : List Constraint} {constraint : Constraint}
    (h : IsUniform (constraints ++ [constraint])) :
    Entry.join? (Entry.ofConstraints? constraints) constraint.operator constraint.value =
      some (Entry.ofConstraints (constraints ++ [constraint])) := by
  rw [isUniform_append_singleton] at h
  cases hoperator : constraint.operator with
  | equality =>
    obtain rfl : constraints = [] := h.resolve_right fun hclash => hclash.1 hoperator
    rw [List.nil_append, Entry.ofConstraints_equality hoperator]
    rfl
  | comparison c =>
    have hearlier : ∀ earlier ∈ constraints, earlier.operator ≠ .equality := by
      rcases h with rfl | ⟨-, hearlier⟩
      · exact List.forall_mem_nil _
      · exact hearlier
    have hall : ∀ any ∈ constraints ++ [constraint], any.operator ≠ .equality := by
      rw [List.forall_mem_append, List.forall_mem_singleton, hoperator]
      exact ⟨hearlier, nofun⟩
    rw [Entry.ofConstraints_comparisons hall, List.filterMap_append,
      List.filterMap_cons_some (Constraint.comparison?_eq_some hoperator), List.filterMap_nil,
      OrderedMap.latest_append_singleton]
    -- without constraints there is no entry yet, and the comparison makes one of its own
    by_cases hnil : constraints = []
    · subst hnil
      rfl
    · rw [Entry.ofConstraints?, if_neg hnil, Entry.ofConstraints_comparisons hearlier,
        Entry.join?]

/-- A constraint that makes a uniform field anything else cannot join its entry. -/
theorem join?_ofConstraints?_eq_none {constraints : List Constraint} {constraint : Constraint}
    (hbefore : IsUniform constraints) (h : ¬ IsUniform (constraints ++ [constraint])) :
    Entry.join? (Entry.ofConstraints? constraints) constraint.operator constraint.value = none := by
  rw [isUniform_append_singleton, not_or] at h
  obtain ⟨hnil, hclash⟩ := h
  rw [Entry.join?_eq_none_iff]
  refine ⟨_, if_neg hnil, ?_⟩
  rcases hbefore with ⟨only, rfl, hequality⟩ | hall
  · exact Or.inl ⟨_, Entry.ofConstraints_equality hequality⟩
  · refine Or.inr ?_
    by_contra hoperator
    exact hclash ⟨hoperator, hall⟩

/-! ### Groups -/

/-- The constraints on a field, in order. -/
def constraintsOn (field : Text) (constraints : List Constraint) : List Constraint :=
  constraints.filter fun constraint => constraint.field = field

/-- The document that has, in the order of their first constraints, the fields that are
constrained, each with what its constraints amount to. -/
def grouped (constraints : List Constraint) : Document :=
  ⟨(constraints.map Constraint.field).eraseDups.map fun field =>
    (field, Entry.ofConstraints (constraintsOn field constraints))⟩

/-- On every field the constraints are one equality and nothing else, or no equality at all. -/
def IsCompatible (constraints : List Constraint) : Prop :=
  ∀ field, IsUniform (constraintsOn field constraints)

theorem constraintsOn_append_singleton (field : Text) (constraints : List Constraint)
    (constraint : Constraint) :
    constraintsOn field (constraints ++ [constraint]) =
      if field = constraint.field then constraintsOn field constraints ++ [constraint]
      else constraintsOn field constraints := by
  rw [constraintsOn, List.filter_append]
  by_cases h : field = constraint.field
  · simp [constraintsOn, h]
  · simp [constraintsOn, h, Ne.symm h]

theorem constraintsOn_eq_nil_iff {field : Text} {constraints : List Constraint} :
    constraintsOn field constraints = [] ↔ field ∉ constraints.map Constraint.field := by
  rw [constraintsOn, List.filter_eq_nil_iff]
  simp

theorem keys_grouped (constraints : List Constraint) :
    (grouped constraints).fields.keys = (constraints.map Constraint.field).eraseDups := by
  rw [grouped, OrderedMap.keys, List.map_map]
  exact List.map_id _

theorem get?_grouped (field : Text) (constraints : List Constraint) :
    (grouped constraints).get? field = Entry.ofConstraints? (constraintsOn field constraints) := by
  rw [Document.get?, grouped, ← List.filterMap_eq_map, OrderedMap.get?_filterMap (by simp)]
  simp only [List.mem_eraseDups, Entry.ofConstraints?, constraintsOn_eq_nil_iff]
  by_cases h : field ∈ constraints.map Constraint.field
  · rw [if_pos h, if_neg (not_not_intro h)]
    rfl
  · rw [if_neg h, if_pos h]

/-- Grouping a further constraint changes the entry of its field alone. -/
theorem grouped_append_singleton (constraints : List Constraint) (constraint : Constraint) :
    grouped (constraints ++ [constraint]) =
      ⟨(grouped constraints).fields.put constraint.field
        (Entry.ofConstraints (constraintsOn constraint.field constraints ++ [constraint]))⟩ := by
  have hkeys : (grouped (constraints ++ [constraint])).fields.keys =
      (constraints.map Constraint.field ++ [constraint.field]).eraseDups := by
    rw [keys_grouped, List.map_append, List.map_singleton]
  refine congrArg Document.mk
    (OrderedMap.eq_put_of_eraseDups (keys_grouped constraints) hkeys fun field => ?_)
  show (grouped (constraints ++ [constraint])).get? field = _
  have hbefore := get?_grouped field constraints
  rw [Document.get?] at hbefore
  rw [get?_grouped, hbefore, constraintsOn_append_singleton]
  by_cases h : field = constraint.field
  · subst h
    rw [if_pos rfl, if_pos rfl, Entry.ofConstraints?, if_neg (by simp)]
  · rw [if_neg h, if_neg h]

theorem isCompatible_append_singleton {constraints : List Constraint} {constraint : Constraint} :
    IsCompatible (constraints ++ [constraint]) ↔
      IsCompatible constraints ∧
        IsUniform (constraintsOn constraint.field constraints ++ [constraint]) := by
  constructor
  · intro h
    have hfield := h constraint.field
    rw [constraintsOn_append_singleton, if_pos rfl] at hfield
    refine ⟨fun field => ?_, hfield⟩
    have hother := h field
    rw [constraintsOn_append_singleton] at hother
    split at hother
    · exact hother.of_append_singleton
    · exact hother
  · rintro ⟨hbefore, hfield⟩ field
    rw [constraintsOn_append_singleton]
    split
    · next h =>
      rw [h]
      exact hfield
    · exact hbefore field

/-! ### Adding one by one -/

/-- Constraints added in order, starting without fields. -/
def addAll (constraints : List Constraint) : Except QueryError Document :=
  constraints.foldlM Document.add .empty

theorem addAll_append_singleton_eq_ok_iff {constraints : List Constraint}
    {constraint : Constraint} {document : Document} :
    addAll (constraints ++ [constraint]) = .ok document ↔
      ∃ reached, addAll constraints = .ok reached ∧ reached.add constraint = .ok document := by
  rw [addAll, foldlM_append_eq_ok_iff]
  simp only [List.foldlM_cons, List.foldlM_nil, bind_pure, addAll]

/-- A constraint meets an entry on its field that it cannot join, since that entry is an
equality or the constraint is one. -/
def Clashes (document : Document) (constraint : Constraint) (held : Entry) : Prop :=
  document.get? constraint.field = some held ∧
    ((∃ value, held = .scalar value) ∨ constraint.operator = .equality)

theorem exists_clashes_iff {document : Document} {constraint : Constraint} :
    (∃ held, Clashes document constraint held) ↔
      Entry.join? (document.get? constraint.field) constraint.operator constraint.value = none :=
  Entry.join?_eq_none_iff.symm

/-- Adding fails at a clash, and says with what. -/
theorem add_eq_error_iff {document : Document} {constraint : Constraint} {error : QueryError} :
    document.add constraint = .error error ↔
      ∃ held, Clashes document constraint held ∧
        error = .fieldConflict constraint.field (Slot.ofEntry held).words
          (Document.describe constraint.operator) := by
  constructor
  · intro h
    cases hjoin : Entry.join? (document.get? constraint.field) constraint.operator
        constraint.value with
    | some entry =>
      rw [Document.add_of_join? hjoin] at h
      cases h
    | none =>
      obtain ⟨held, hheld, hclash⟩ := exists_clashes_iff.2 hjoin
      rw [Document.add_of_join?_eq_none hjoin, hheld] at h
      exact ⟨held, ⟨hheld, hclash⟩, (Except.error.inj h).symm⟩
  · rintro ⟨held, hclash, rfl⟩
    rw [Document.add_of_join?_eq_none (exists_clashes_iff.1 ⟨held, hclash⟩), hclash.1]
    rfl

/-- A constraint fits the groups before it exactly if it leaves its field uniform. -/
theorem exists_clashes_grouped_iff {constraints : List Constraint} {constraint : Constraint}
    (h : IsCompatible constraints) :
    (∃ held, Clashes (grouped constraints) constraint held) ↔
      ¬ IsCompatible (constraints ++ [constraint]) := by
  rw [exists_clashes_iff, get?_grouped, isCompatible_append_singleton, and_iff_right h]
  constructor
  · intro hjoin hfield
    rw [join?_ofConstraints? hfield] at hjoin
    cases hjoin
  · exact join?_ofConstraints?_eq_none (h constraint.field)

theorem add_grouped {constraints : List Constraint} {constraint : Constraint}
    (h : IsCompatible (constraints ++ [constraint])) :
    (grouped constraints).add constraint = .ok (grouped (constraints ++ [constraint])) := by
  obtain ⟨-, hfield⟩ := isCompatible_append_singleton.1 h
  rw [grouped_append_singleton]
  apply Document.add_of_join?
  rw [get?_grouped]
  exact join?_ofConstraints? hfield

/-- Compatible constraints come to their groups. -/
theorem addAll_of_isCompatible {constraints : List Constraint} (h : IsCompatible constraints) :
    addAll constraints = .ok (grouped constraints) := by
  induction constraints using List.reverseRecOn with
  | nil => rfl
  | append_singleton constraints constraint ih =>
    have hbefore := ih (isCompatible_append_singleton.1 h).1
    exact addAll_append_singleton_eq_ok_iff.2 ⟨_, hbefore, add_grouped h⟩

theorem isCompatible_of_addAll {constraints : List Constraint} {document : Document}
    (h : addAll constraints = .ok document) : IsCompatible constraints := by
  induction constraints using List.reverseRecOn generalizing document with
  | nil => exact fun field => isUniform_nil
  | append_singleton constraints constraint ih =>
    -- what was reached before are the groups, and what clashes with these is refused
    obtain ⟨reached, hreached, hadd⟩ := addAll_append_singleton_eq_ok_iff.1 h
    have hbefore := ih hreached
    rw [addAll_of_isCompatible hbefore] at hreached
    obtain rfl := Except.ok.inj hreached
    by_contra hclash
    obtain ⟨held, hheld⟩ := (exists_clashes_grouped_iff hbefore).2 hclash
    rw [add_eq_error_iff.2 ⟨held, hheld, rfl⟩] at hadd
    cases hadd

theorem addAll_eq_ok_iff {constraints : List Constraint} {document : Document} :
    addAll constraints = .ok document ↔
      IsCompatible constraints ∧ document = grouped constraints := by
  constructor
  · intro h
    have hcompatible := isCompatible_of_addAll h
    rw [addAll_of_isCompatible hcompatible] at h
    exact ⟨hcompatible, (Except.ok.inj h).symm⟩
  · rintro ⟨hcompatible, rfl⟩
    exact addAll_of_isCompatible hcompatible

theorem IsCompatible.of_append {constraints more : List Constraint}
    (h : IsCompatible (constraints ++ more)) : IsCompatible constraints := by
  induction more using List.reverseRecOn with
  | nil => rwa [List.append_nil] at h
  | append_singleton more constraint ih =>
    rw [← List.append_assoc] at h
    exact ih (isCompatible_append_singleton.1 h).1

/-- Adding one by one succeeds exactly if every field has one equality alone or no equality, and
then gives the constraints in groups. Otherwise it stops at the first constraint that clashes
with the groups before it, and names its field, what that held and what came. -/
theorem addAll_eq_grouped (constraints : List Constraint) :
    ((∃ document, addAll constraints = .ok document) ↔ IsCompatible constraints) ∧
      (∀ document, addAll constraints = .ok document → document = grouped constraints) ∧
      ∀ error, addAll constraints = .error error ↔
        ∃ before constraint after held, constraints = before ++ constraint :: after ∧
          addAll before = .ok (grouped before) ∧
          (∀ earlier next later, before = earlier ++ next :: later →
            ∀ held, ¬ Clashes (grouped earlier) next held) ∧
          Clashes (grouped before) constraint held ∧
          error = .fieldConflict constraint.field (Slot.ofEntry held).words
            (Document.describe constraint.operator) := by
  refine ⟨⟨fun ⟨_, h⟩ => isCompatible_of_addAll h, fun h => ⟨_, addAll_of_isCompatible h⟩⟩,
    fun document h => (addAll_eq_ok_iff.1 h).2, fun error => ?_⟩
  constructor
  · intro h
    obtain ⟨before, constraint, after, reached, hlist, hreached, hadd⟩ := foldlM_eq_error_iff.1 h
    obtain ⟨hcompatible, rfl⟩ := addAll_eq_ok_iff.1 hreached
    obtain ⟨held, hclash, herror⟩ := add_eq_error_iff.1 hadd
    refine ⟨before, constraint, after, held, hlist, hreached, ?_, hclash, herror⟩
    -- up to `next` the constraints are a part of `before`, and so compatible
    intro earlier next later hbefore other hother
    rw [hbefore, ← List.singleton_append, ← List.append_assoc] at hcompatible
    have hnext := hcompatible.of_append
    exact (exists_clashes_grouped_iff hnext.of_append).1 ⟨other, hother⟩ hnext
  · rintro ⟨before, constraint, after, held, hlist, hreached, -, hclash, herror⟩
    have hadd := add_eq_error_iff.2 ⟨held, hclash, herror⟩
    exact foldlM_eq_error_iff.2 ⟨before, constraint, after, grouped before, hlist, hreached, hadd⟩

/-- A field keeps its place and a comparison its own, whatever comes in between. -/
example :
    addAll [⟨['p'], .comparison .less, .string ['x']⟩, ⟨['q'], .equality, .string ['y']⟩,
      ⟨['p'], .comparison .greater, .string ['y']⟩, ⟨['p'], .comparison .less, .string ['z']⟩] =
    .ok ⟨[(['p'], .comparisons [(.less, .string ['z']), (.greater, .string ['y'])]),
      (['q'], .scalar (.string ['y']))]⟩ := by
  rfl

end SearchFilter
