import SearchFilter.Proofs.Document.Grouping

/-!
# Constraints in another order

Whether constraints are compatible does not depend on their order. What they come to depends on it
in the places of fields and comparisons, and in which of several constraints on one field with one
operator is the last; if these keep their order among themselves, the documents differ in places
only.

* `IsCompatible.perm`: compatible constraints are so in any order.
* `isReordering_grouped`: what they come to is the same up to order.
-/

namespace SearchFilter

variable {constraints others : List Constraint}

/-! ### Compatibility -/

theorem IsUniform.perm (h : IsUniform constraints) (hperm : constraints.Perm others) :
    IsUniform others := by
  rcases h with ⟨constraint, rfl, hequality⟩ | hall
  · exact Or.inl ⟨constraint, (List.singleton_perm.1 hperm).symm, hequality⟩
  · exact Or.inr fun constraint hmem => hall constraint (hperm.mem_iff.2 hmem)

theorem IsCompatible.perm (h : IsCompatible constraints) (hperm : constraints.Perm others) :
    IsCompatible others :=
  fun field => (h field).perm (hperm.filter _)

theorem isCompatible_perm_iff (hperm : constraints.Perm others) :
    IsCompatible constraints ↔ IsCompatible others :=
  ⟨fun h => h.perm hperm, fun h => h.perm hperm.symm⟩

/-! ### Documents up to order -/

/-- The same value, or the same comparisons with the same values in any order. -/
inductive Entry.IsReordering : Entry → Entry → Prop
  | scalar (value : Value) : IsReordering (.scalar value) (.scalar value)
  | comparisons {values others : OrderedMap Comparison Value} (h : List.Perm values others) :
      IsReordering (.comparisons values) (.comparisons others)

/-- The same fields in any order, each with the same entry up to order. -/
structure Document.IsReordering (document other : Document) : Prop where
  names : document.names.Perm other.names
  entries : ∀ field, Option.Rel Entry.IsReordering (document.get? field) (other.get? field)

/-- The constraints on a field with an operator, in order. -/
def constraintsWith (field : Text) (operator : Operator) (constraints : List Constraint) :
    List Constraint :=
  constraints.filter fun constraint => constraint.field = field ∧ constraint.operator = operator

theorem filter_constraintsOn (field : Text) (operator : Operator) (constraints : List Constraint) :
    (constraintsOn field constraints).filter (fun constraint => constraint.operator = operator) =
      constraintsWith field operator constraints := by
  rw [constraintsOn, List.filter_filter, constraintsWith]
  refine List.filter_congr fun constraint _ => ?_
  rw [← Bool.decide_and]
  exact decide_eq_decide.2 and_comm

/-- The pairs of a comparison come from the constraints with that operator. -/
theorem filter_filterMap_comparison? (c : Comparison) (constraints : List Constraint) :
    (constraints.filterMap Constraint.comparison?).filter (fun pair => pair.1 = c) =
      (constraints.filter fun constraint => constraint.operator = .comparison c).filterMap
        Constraint.comparison? := by
  induction constraints with
  | nil => rfl
  | cons constraint constraints ih =>
    obtain ⟨field, operator, value⟩ := constraint
    cases operator with
    | equality =>
      have hnone : Constraint.comparison? ⟨field, .equality, value⟩ = none := rfl
      rw [List.filterMap_cons_none hnone, ih, List.filter_cons_of_neg (by simp)]
    | comparison d =>
      have hsome : Constraint.comparison? ⟨field, .comparison d, value⟩ = some (d, value) := rfl
      rw [List.filterMap_cons_some hsome]
      by_cases h : d = c
      · rw [List.filter_cons_of_pos (by simpa using h), List.filter_cons_of_pos (by simpa using h),
          List.filterMap_cons_some hsome, ih]
      · rw [List.filter_cons_of_neg (by simpa using h), List.filter_cons_of_neg (by simpa using h),
          ih]

/-- Constraints on one field come to one entry, up to order, if those with one operator keep their
order. -/
theorem isReordering_ofConstraints (huniform : IsUniform constraints)
    (hperm : constraints.Perm others)
    (hsame : ∀ c : Comparison,
      (constraints.filter fun constraint => constraint.operator = .comparison c) =
        others.filter fun constraint => constraint.operator = .comparison c) :
    (Entry.ofConstraints constraints).IsReordering (Entry.ofConstraints others) := by
  rcases huniform with ⟨constraint, rfl, hequality⟩ | hall
  · rw [← List.singleton_perm.1 hperm, Entry.ofConstraints_equality hequality]
    exact .scalar constraint.value
  · have hall' : ∀ constraint ∈ others, constraint.operator ≠ .equality :=
      fun constraint hmem => hall constraint (hperm.mem_iff.2 hmem)
    rw [Entry.ofConstraints_comparisons hall, Entry.ofConstraints_comparisons hall']
    refine .comparisons (OrderedMap.perm_of_get? ?_ ?_ fun c => ?_)
    · rw [OrderedMap.keys_latest]
      exact OrderedMap.nodup_eraseDups _
    · rw [OrderedMap.keys_latest]
      exact OrderedMap.nodup_eraseDups _
    · refine OrderedMap.get?_latest_congr ?_
      rw [filter_filterMap_comparison?, filter_filterMap_comparison?, hsame]

/-- Compatible constraints come to one document, up to order, if those on one field with one
operator keep their order. -/
theorem isReordering_grouped (hcompatible : IsCompatible constraints)
    (hperm : constraints.Perm others)
    (hsame : ∀ field c, constraintsWith field (.comparison c) constraints =
      constraintsWith field (.comparison c) others) :
    (grouped constraints).IsReordering (grouped others) where
  names := by
    show (grouped constraints).fields.keys.Perm (grouped others).fields.keys
    rw [keys_grouped, keys_grouped]
    exact OrderedMap.perm_eraseDups (hperm.map _)
  entries := by
    intro field
    have hfield : (constraintsOn field constraints).Perm (constraintsOn field others) :=
      hperm.filter _
    rw [get?_grouped, get?_grouped, Entry.ofConstraints?, Entry.ofConstraints?]
    -- both documents have the field or neither has it
    by_cases hnil : constraintsOn field constraints = []
    · have hnil' : constraintsOn field others = [] := by
        rw [hnil] at hfield
        exact hfield.nil_eq.symm
      rw [if_pos hnil, if_pos hnil']
      exact .none
    · have hnil' : constraintsOn field others ≠ [] := by
        intro h
        rw [h] at hfield
        exact hnil hfield.eq_nil
      rw [if_neg hnil, if_neg hnil']
      refine .some (isReordering_ofConstraints (hcompatible field) hfield fun c => ?_)
      rw [filter_constraintsOn, filter_constraintsOn, hsame]

end SearchFilter
