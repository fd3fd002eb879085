import Mathlib.Algebra.GroupWithZero.Nat
import SearchFilter.Proofs.Document.Adding

/-!
# What a document holds

Under a field and an operator it holds one value or none. A constraint that is added puts its value
there, beside what the document held or in the place of the value that a comparison of its kind had;
with each constraint there is one value more, unless one was overwritten.

* `value?_add`: what is held after a constraint was added.
* `overwritten?_of_add`: a value is overwritten exactly if one was held.
* `count_add`: the balance of values.
-/

namespace SearchFilter

namespace OrderedMap

variable {κ ν : Type} [DecidableEq κ]

/-- In a total over a map a value that is put counts, and the one that it replaces does not. -/
theorem sum_put (weight : ν → Nat) (map : OrderedMap κ ν) (key : κ) (value : ν) :
    ((put map key value).map fun entry => weight entry.2).sum +
        ((get? map key).map weight).getD 0 =
      (map.map fun entry => weight entry.2).sum + weight value := by
  induction map with
  | nil => simp [put]
  | cons entry map ih =>
    obtain ⟨k, old⟩ := entry
    by_cases hk : k = key
    · rw [put, if_pos hk, get?, if_pos hk]
      simp only [List.map_cons, List.sum_cons, Option.map_some, Option.getD_some]
      omega
    · rw [put, if_neg hk, get?_cons_of_ne hk]
      simp only [List.map_cons, List.sum_cons]
      omega

theorem length_put (map : OrderedMap κ ν) (key : κ) (value : ν) :
    (put map key value).length = if has map key then map.length else map.length + 1 := by
  have hkeys := congrArg List.length (keys_put map key value)
  rw [keys, List.length_map] at hkeys
  rw [hkeys, has]
  by_cases hmem : key ∈ keys map
  · have hsome : (get? map key).isSome = true :=
      Option.isSome_iff_ne_none.2 (mt get?_eq_none_iff.1 (not_not_intro hmem))
    rw [if_pos hmem, if_pos hsome, keys, List.length_map]
  · rw [if_neg hmem, get?_eq_none_iff.2 hmem, List.length_append, keys, List.length_map]
    rfl

end OrderedMap

/-! ### Values by operator -/

namespace Entry

/-- The value that an entry holds under an operator. -/
def value? : Entry → Operator → Option Value
  | scalar value, .equality => some value
  | comparisons values, .comparison c => values.get? c
  | _, _ => none

/-- The number of values that must be equal to. -/
def scalarCount : Entry → Nat
  | scalar _ => 1
  | comparisons _ => 0

/-- The number of comparisons. -/
def comparisonCount : Entry → Nat
  | scalar _ => 0
  | comparisons values => values.length

theorem value?_join? {held : Option Entry} {operator : Operator} {value : Value} {entry : Entry}
    (h : join? held operator value = some entry) (other : Operator) :
    entry.value? other =
      if other = operator then some value else held.bind (Entry.value? · other) := by
  cases held with
  | none =>
    cases operator with
    | equality =>
      obtain rfl := Option.some.inj h
      cases other with
      | equality => rfl
      | comparison d => rfl
    | comparison c =>
      obtain rfl := Option.some.inj h
      cases other with
      | equality => rfl
      | comparison d => simp [Entry.value?, OrderedMap.get?, eq_comm]
  | some old =>
    cases old with
    | scalar old => cases h
    | comparisons values =>
      cases operator with
      | equality => cases h
      | comparison c =>
        obtain rfl := Option.some.inj h
        cases other with
        | equality => rfl
        | comparison d => simp [Entry.value?, OrderedMap.get?_put]

/-- An entry grows by one value, unless it held one under the operator. -/
theorem count_join? {held : Option Entry} {operator : Operator} {value : Value} {entry : Entry}
    (h : join? held operator value = some entry) :
    entry.scalarCount + entry.comparisonCount +
        (held.bind (Entry.value? · operator)).toList.length =
      (held.map scalarCount).getD 0 + (held.map comparisonCount).getD 0 + 1 := by
  cases held with
  | none =>
    cases operator with
    | equality =>
      obtain rfl := Option.some.inj h
      rfl
    | comparison c =>
      obtain rfl := Option.some.inj h
      rfl
  | some old =>
    cases old with
    | scalar old => cases h
    | comparisons values =>
      cases operator with
      | equality => cases h
      | comparison c =>
        obtain rfl := Option.some.inj h
        show 0 + (values.put c value).length + (values.get? c).toList.length =
          0 + values.length + 1
        -- the map grows unless the comparison was in it, and then the old value makes up for it
        rw [OrderedMap.length_put, OrderedMap.has]
        obtain hvalue | ⟨old, hvalue⟩ := Option.eq_none_or_eq_some (values.get? c)
        · simp [hvalue]
        · simp [hvalue]

end Entry

namespace Document

/-- The value that a document holds under a field and an operator. -/
def value? (document : Document) (field : Text) (operator : Operator) : Option Value :=
  (document.get? field).bind (Entry.value? · operator)

/-- The number of fields that must equal a value. -/
def scalarCount (document : Document) : Nat :=
  (document.fields.map fun field => field.2.scalarCount).sum

/-- The number of comparisons, on all fields together. -/
def comparisonCount (document : Document) : Nat :=
  (document.fields.map fun field => field.2.comparisonCount).sum

variable {document next : Document} {constraint : Constraint}

/-- Adding a constraint changes what is held under its field and its operator, and nothing else. -/
theorem value?_add (h : document.add constraint = .ok next) (field : Text) (operator : Operator) :
    next.value? field operator =
      if field = constraint.field ∧ operator = constraint.operator then some constraint.value
      else document.value? field operator := by
  obtain ⟨entry, hjoin, rfl⟩ := add_eq_ok_iff.1 h
  have hget : get? ⟨document.fields.put constraint.field entry⟩ field =
      if field = constraint.field then some entry else document.get? field :=
    OrderedMap.get?_put _ _ _ _
  rw [value?, hget]
  by_cases hfield : field = constraint.field
  · subst hfield
    rw [if_pos rfl, Option.bind_some, Entry.value?_join? hjoin, value?]
    simp only [true_and]
  · rw [if_neg hfield, if_neg (fun hboth => hfield hboth.1), value?]

/-- An equality never takes the place of a value. -/
theorem overwritten?_of_equality (h : constraint.operator = .equality) :
    document.overwritten? constraint = none := by
  rw [overwritten?, h]
  cases document.get? constraint.field with
  | none => rfl
  | some held => cases held <;> rfl

/-- A comparison takes the place of the value that its field holds under it. -/
theorem overwritten?_of_comparison {c : Comparison} (h : constraint.operator = .comparison c) :
    document.overwritten? constraint =
      if (document.value? constraint.field (.comparison c)).isSome then some c else none := by
  rw [overwritten?, value?, h]
  cases document.get? constraint.field with
  | none => rfl
  | some held => cases held <;> rfl

/-- A constraint that is added takes the place of a value exactly if its field held one under its
operator. -/
theorem overwritten?_of_add (h : document.add constraint = .ok next) :
    (document.overwritten? constraint).map Operator.comparison =
      (document.value? constraint.field constraint.operator).map fun _ =>
        constraint.operator := by
  cases hoperator : constraint.operator with
  | comparison c =>
    rw [overwritten?_of_comparison hoperator]
    cases document.value? constraint.field (.comparison c) with
    | none => rfl
    | some old => rfl
  | equality =>
    -- no entry takes an equality, so that there was none
    obtain ⟨entry, hjoin, -⟩ := add_eq_ok_iff.1 h
    rw [hoperator] at hjoin
    rw [overwritten?_of_equality hoperator, value?]
    cases hheld : document.get? constraint.field with
    | none => rfl
    | some held =>
      rw [hheld] at hjoin
      cases held <;> cases hjoin

theorem length_overwritten? (h : document.add constraint = .ok next) :
    (document.overwritten? constraint).toList.length =
      (document.value? constraint.field constraint.operator).toList.length := by
  have hsame := congrArg (fun found => found.toList.length) (overwritten?_of_add h)
  simpa only [Option.toList_map, List.length_map] using hsame

/-- Each constraint brings one value more, except for those that overwrite one. -/
theorem count_add (h : document.add constraint = .ok next) :
    next.scalarCount + next.comparisonCount + (document.overwritten? constraint).toList.length =
      document.scalarCount + document.comparisonCount + 1 := by
  rw [length_overwritten? h, value?]
  obtain ⟨entry, hjoin, rfl⟩ := add_eq_ok_iff.1 h
  have hentry := Entry.count_join? hjoin
  have hscalars := OrderedMap.sum_put Entry.scalarCount document.fields constraint.field entry
  have hcomparisons :=
    OrderedMap.sum_put Entry.comparisonCount document.fields constraint.field entry
  rw [← get?] at hscalars hcomparisons
  simp only [scalarCount, comparisonCount]
  omega

end Document

end SearchFilter
