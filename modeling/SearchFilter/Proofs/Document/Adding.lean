import SearchFilter.Document.Basic
import SearchFilter.Proofs.OrderedMap

/-!
# What adding does to a document

A constraint concerns the entry of its field only, and either joins it or is refused; `Entry.join?`
says what becomes of that entry, so that the rest of the theory need not look at the merge table
again.

* `add_eq`: adding is joining, in the place of the field.
* `isFinite_add`: a document with finite numbers only keeps them finite.
-/

namespace SearchFilter

/-! ### Joining an entry -/

/-- The entry of a field after a constraint on it, if the constraint can join what is there. -/
def Entry.join? : Option Entry → Operator → Value → Option Entry
  | none, .equality, value => some (.scalar value)
  | none, .comparison c, value => some (.comparisons [(c, value)])
  | some (.comparisons values), .comparison c, value => some (.comparisons (values.put c value))
  | _, _, _ => none

/-- A constraint cannot join an equality, and no equality joins what is there. -/
theorem Entry.join?_eq_none_iff {held : Option Entry} {operator : Operator} {value : Value} :
    join? held operator value = none ↔
      ∃ entry, held = some entry ∧ ((∃ old, entry = .scalar old) ∨ operator = .equality) := by
  cases held with
  | none => cases operator <;> simp [join?]
  | some entry => cases entry <;> cases operator <;> simp [join?]

namespace Document

/-- Adding puts the joined entry in the place of the field's, or says what does not fit. -/
theorem add_eq (document : Document) (constraint : Constraint) :
    document.add constraint =
      match Entry.join? (document.get? constraint.field) constraint.operator constraint.value with
      | some entry => .ok ⟨document.fields.put constraint.field entry⟩
      | none => .error (conflict (.ofEntry (document.get? constraint.field)) constraint) := by
  obtain ⟨field, operator, value⟩ := constraint
  cases hentry : document.get? field with
  | none => cases operator <;> simp [add, attempt, hentry, Entry.join?]
  | some entry => cases entry <;> cases operator <;> simp [add, attempt, hentry, Entry.join?]

theorem add_of_join? {document : Document} {constraint : Constraint} {entry : Entry}
    (h : Entry.join? (document.get? constraint.field) constraint.operator constraint.value =
      some entry) :
    document.add constraint = .ok ⟨document.fields.put constraint.field entry⟩ := by
  rw [add_eq, h]

theorem add_of_join?_eq_none {document : Document} {constraint : Constraint}
    (h : Entry.join? (document.get? constraint.field) constraint.operator constraint.value =
      none) :
    document.add constraint =
      .error (conflict (.ofEntry (document.get? constraint.field)) constraint) := by
  rw [add_eq, h]

theorem add_eq_ok_iff {document next : Document} {constraint : Constraint} :
    document.add constraint = .ok next ↔
      ∃ entry,
        Entry.join? (document.get? constraint.field) constraint.operator constraint.value =
          some entry ∧
        next = ⟨document.fields.put constraint.field entry⟩ := by
  cases h : Entry.join? (document.get? constraint.field) constraint.operator constraint.value with
  | none => simp [add_of_join?_eq_none h]
  | some entry =>
    rw [add_of_join? h]
    constructor
    · intro hnext
      exact ⟨entry, rfl, (Except.ok.inj hnext).symm⟩
    · rintro ⟨_, hentry, rfl⟩
      rw [Option.some.inj hentry]

/-! ### Finite numbers -/

theorem isFinite_entryJson_comparisons (values : OrderedMap Comparison Value) :
    (entryJson (.comparisons values)).isFinite = true ↔
      ∀ pair ∈ values, pair.2.toJson.isFinite = true := by
  rw [entryJson, Json.isFinite_object_iff, List.forall_mem_map]

/-- The numbers of a document are those of its entries. -/
theorem isFinite_toJson_iff (document : Document) :
    document.toJson.isFinite = true ↔
      ∀ pair ∈ document.fields, (entryJson pair.2).isFinite = true := by
  rw [toJson, Json.isFinite_object_iff, List.forall_mem_map]

theorem isFinite_join? {held : Option Entry} {operator : Operator} {value : Value} {entry : Entry}
    (hheld : ∀ old, held = some old → (entryJson old).isFinite = true)
    (hvalue : value.toJson.isFinite = true) (h : Entry.join? held operator value = some entry) :
    (entryJson entry).isFinite = true := by
  cases held with
  | none =>
    cases operator with
    | equality =>
      obtain rfl := Option.some.inj h
      exact hvalue
    | comparison c =>
      obtain rfl := Option.some.inj h
      rw [isFinite_entryJson_comparisons, List.forall_mem_singleton]
      exact hvalue
  | some old =>
    cases old with
    | scalar held => simp [Entry.join?] at h
    | comparisons values =>
      cases operator with
      | equality => simp [Entry.join?] at h
      | comparison c =>
        obtain rfl := Option.some.inj h
        have hvalues := hheld _ rfl
        rw [isFinite_entryJson_comparisons] at hvalues ⊢
        intro pair hpair
        rcases OrderedMap.mem_put hpair with rfl | hpair
        · exact hvalue
        · exact hvalues pair hpair

/-- A constraint on a finite value leaves no number in a document that is not finite, if there
was none. -/
theorem isFinite_add {document next : Document} {constraint : Constraint}
    (hdocument : document.toJson.isFinite = true)
    (hvalue : constraint.value.toJson.isFinite = true)
    (h : document.add constraint = .ok next) : next.toJson.isFinite = true := by
  rw [isFinite_toJson_iff] at hdocument ⊢
  obtain ⟨entry, hentry, rfl⟩ := add_eq_ok_iff.1 h
  intro pair hpair
  rcases OrderedMap.mem_put hpair with rfl | hpair
  · refine isFinite_join? (fun old hold => ?_) hvalue hentry
    exact hdocument _ (OrderedMap.mem_of_get? hold)
  · exact hdocument pair hpair

end Document

end SearchFilter
