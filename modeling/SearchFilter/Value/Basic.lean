import SearchFilter.Json.Basic

/-!
# The values of constraints

A value is a number, a truth value or a string.
-/

namespace SearchFilter

/-- What a field is compared with: a number, a truth value or a string. -/
inductive Value where
  | number (x : Binary64)
  | boolean (b : Bool)
  | string (text : Text)
  deriving DecidableEq

namespace Value

/-- A value in JSON. -/
def toJson : Value → Json
  | number x => .number x
  | boolean b => .boolean b
  | string text => .string text

/-- Distinct values stay distinct in JSON. -/
theorem toJson_inj {v w : Value} : v.toJson = w.toJson ↔ v = w := by
  cases v <;> cases w <;> simp [toJson]

end Value

end SearchFilter
