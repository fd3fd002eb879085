import SearchFilter.Failure
import SearchFilter.Operator
import SearchFilter.OrderedMap
import SearchFilter.Value.Basic

/-!
# Filter documents

A field holds one equality, or comparisons that add up; equality never joins anything. Which
constraint may follow which is the table `Action.of`.

* `attempt_of_refused`: a constraint that is refused leaves the document as it was.
* `add_error_iff`: when a constraint is refused, and with which error.
-/

namespace SearchFilter

/-- What a field of a document holds (`FilterValue`). -/
inductive Entry where
  /-- One value that the field must equal. -/
  | scalar (value : Value)
  /-- Comparisons, at most one of each kind. -/
  | comparisons (values : OrderedMap Comparison Value)
  deriving DecidableEq

/-- A field, an operator and a value. -/
structure Constraint where
  field : Text
  operator : Operator
  value : Value
  deriving DecidableEq

/-! ### The merge table -/

/-- What a constraint meets in a document. -/
inductive Slot where
  | absent
  | scalar
  | operatorSet
  deriving DecidableEq

/-- What becomes of a constraint. -/
inductive Action where
  | insert
  | merge
  | conflict
  deriving DecidableEq

namespace Slot

/-- The words for a slot. -/
def words : Slot → Text
  | absent => "absent".toList
  | scalar => "scalar".toList
  | operatorSet => "operator set".toList

/-- The slot that a field's entry makes (`_slot_of`). -/
def ofEntry : Option Entry → Slot
  | none => absent
  | some (.scalar _) => scalar
  | some (.comparisons _) => operatorSet

end Slot

namespace Action

/-- The word for an action. -/
def word : Action → Text
  | insert => "insert".toList
  | merge => "merge".toList
  | conflict => "conflict".toList

/-- What becomes of a constraint that meets a slot. -/
def of (slot : Slot) (isEquality : Bool) : Action :=
  match slot, isEquality with
  | .absent, _ => insert
  | .scalar, _ => conflict
  | .operatorSet, true => conflict
  | .operatorSet, false => merge

/-- The merge table, row by row (`MERGE_RULES`). -/
def table : List (Slot × Bool × Action) :=
  [Slot.absent, .scalar, .operatorSet].flatMap fun slot =>
    [true, false].map fun isEquality => (slot, isEquality, of slot isEquality)

end Action

/-! ### Documents -/

/-- A filter document (`FilterDocument`): its fields in the order in which they were first
constrained. -/
structure Document where
  fields : OrderedMap Text Entry := []
  deriving DecidableEq

namespace Document

/-- The document without fields. -/
def empty : Document := {}

/-- The entry of a field. -/
def get? (document : Document) (field : Text) : Option Entry := document.fields.get? field

/-- The entry of a field that the document must have. -/
def get (document : Document) (field : Text) : Except Fault Entry :=
  match document.get? field with
  | some entry => .ok entry
  | none => .error (.unknownField field)

/-- Whether a document has a field. -/
def has (document : Document) (field : Text) : Bool := document.fields.has field

/-- The number of fields. -/
def size (document : Document) : Nat := document.fields.length

/-- The names of the fields, in order. -/
def names (document : Document) : List Text := document.fields.keys

/-- How an incoming constraint is named in an error (`_describe`). -/
def describe : Operator → Text
  | .equality => "equality".toList
  | .comparison c => '\'' :: c.filterKey ++ "' comparison".toList

/-- The error for a constraint that a slot refuses. -/
def conflict (slot : Slot) (constraint : Constraint) : QueryError :=
  .fieldConflict constraint.field slot.words (describe constraint.operator)

/-- Adds a constraint (`FilterDocument.add`): the document that is left behind, and the error if the
constraint is refused. It becomes the entry of a new field, or joins the comparisons of its field,
where a second comparison of one kind takes the place of the first. -/
def attempt (document : Document) (constraint : Constraint) : Document × Option QueryError :=
  let { field, operator, value } := constraint
  match document.get? field, operator with
  | none, .equality => (⟨document.fields.put field (.scalar value)⟩, none)
  | none, .comparison c => (⟨document.fields.put field (.comparisons [(c, value)])⟩, none)
  | some (.comparisons values), .comparison c =>
    (⟨document.fields.put field (.comparisons (values.put c value))⟩, none)
  | held, _ => (document, some (conflict (.ofEntry held) constraint))

/-- The document with a constraint added, or the error if the constraint is refused. -/
def add (document : Document) (constraint : Constraint) : Except QueryError Document :=
  match document.attempt constraint with
  | (next, none) => .ok next
  | (_, some error) => .error error

/-- The comparison whose value a constraint would take the place of. -/
def overwritten? (document : Document) (constraint : Constraint) : Option Comparison :=
  match document.get? constraint.field, constraint.operator with
  | some (.comparisons values), .comparison c => if values.has c then some c else none
  | _, _ => none

/-! ### The form of a document -/

/-- An entry in JSON. -/
def entryJson : Entry → Json
  | .scalar value => value.toJson
  | .comparisons values => .object (values.map fun (c, value) => (c.filterKey, value.toJson))

/-- A document in JSON. -/
def toJson (document : Document) : Json :=
  .object (document.fields.map fun (field, entry) => (field, entryJson entry))

/-! ### What adding does -/

variable {document next : Document} {constraint : Constraint} {error : QueryError}

/-- A constraint that is refused leaves the document behind as it was. -/
theorem attempt_of_refused (h : (document.attempt constraint).2 = some error) :
    document.attempt constraint = (document, some error) := by
  obtain ⟨field, operator, value⟩ := constraint
  cases hheld : document.get? field with
  | none => cases operator <;> simp [attempt, hheld] at h
  | some held =>
    cases held <;> cases operator <;> simp [attempt, hheld] at h ⊢
    all_goals exact h

theorem add_eq_ok_iff_attempt :
    document.add constraint = .ok next ↔ document.attempt constraint = (next, none) := by
  unfold add
  split
  · next left hattempt => simp [hattempt]
  · next left error hattempt => simp [hattempt]

theorem add_eq_error_iff_attempt :
    document.add constraint = .error error ↔ (document.attempt constraint).2 = some error := by
  unfold add
  split
  · next left hattempt => simp [hattempt]
  · next left error hattempt => simp [hattempt]

/-- A constraint is refused exactly where the merge table says so, with an error that
    names what is there and what came. -/
theorem add_error_iff :
    document.add constraint = .error error ↔
      Action.of (.ofEntry (document.get? constraint.field)) constraint.operator.isEquality =
          .conflict ∧
        error = conflict (.ofEntry (document.get? constraint.field)) constraint := by
  rw [add_eq_error_iff_attempt]
  obtain ⟨field, operator, value⟩ := constraint
  cases hheld : document.get? field with
  | none => cases operator <;> simp [attempt, hheld, Slot.ofEntry, Action.of]
  | some held =>
    cases held <;> cases operator <;>
      simp [attempt, hheld, Slot.ofEntry, Action.of, Operator.isEquality, eq_comm]

end Document

end SearchFilter
