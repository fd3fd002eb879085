import SearchFilter.Binary64.Basic
import SearchFilter.Text.Basic

/-!
# JSON values

An object is a list of members, so that their order is part of the value; whole numbers and binary
fractions are told apart.

* `isFinite_array_iff`: the numbers of a list are finite if those of its items are.
* `isFinite_object_iff`: the numbers of an object are finite if those of its members are.
-/

namespace SearchFilter

/-- A JSON value. -/
inductive Json where
  | null
  | boolean (value : Bool)
  | integer (value : Int)
  | number (value : Binary64)
  | string (value : Text)
  | array (items : List Json)
  | object (members : List (Text × Json))

namespace Json

instance : Inhabited Json := ⟨null⟩

/-- The member of an object with a given name. -/
def member? (name : Text) : Json → Option Json
  | object members => members.lookup name
  | _ => none

mutual

/-- Whether every number in a value is finite. -/
def isFinite : Json → Bool
  | number x => x.isFinite
  | array items => allFinite items
  | object members => membersFinite members
  | _ => true

/-- Whether every number in a list of values is finite. -/
def allFinite : List Json → Bool
  | [] => true
  | item :: items => item.isFinite && allFinite items

/-- Whether every number in a list of members is finite. -/
def membersFinite : List (Text × Json) → Bool
  | [] => true
  | (_, value) :: members => value.isFinite && membersFinite members

end

@[simp] theorem isFinite_null : null.isFinite = true := rfl

@[simp] theorem isFinite_boolean (value : Bool) : (boolean value).isFinite = true := rfl

@[simp] theorem isFinite_integer (value : Int) : (integer value).isFinite = true := rfl

@[simp] theorem isFinite_string (value : Text) : (string value).isFinite = true := rfl

theorem isFinite_array_iff (items : List Json) :
    (array items).isFinite = true ↔ ∀ item ∈ items, item.isFinite = true := by
  show allFinite items = true ↔ _
  induction items with
  | nil => simp [allFinite]
  | cons item items ih => simp [allFinite, ih]

theorem isFinite_object_iff (members : List (Text × Json)) :
    (object members).isFinite = true ↔ ∀ entry ∈ members, entry.2.isFinite = true := by
  show membersFinite members = true ↔ _
  induction members with
  | nil => simp [membersFinite]
  | cons entry members ih => simp [membersFinite, ih]

end Json

end SearchFilter
