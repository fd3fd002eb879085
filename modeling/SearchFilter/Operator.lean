import SearchFilter.Text.Basic

/-!
# The operators of the query language

The operators, and how they are recognised in a token.

* `mem_priority`: every operator has its turn in the detection order.
-/

namespace SearchFilter

/-- A comparison with a value. -/
inductive Comparison where
  | greaterOrEqual
  | lessOrEqual
  | greater
  | less
  | notEqual
  deriving DecidableEq

/-- An operator: a comparison, or equality with a value. -/
inductive Operator where
  | comparison (c : Comparison)
  | equality
  deriving DecidableEq

namespace Comparison

/-- How a comparison is written in a query. -/
def symbol : Comparison → Text
  | greaterOrEqual => ['>', '=']
  | lessOrEqual => ['<', '=']
  | greater => ['>']
  | less => ['<']
  | notEqual => ['!', ':']

/-- How a comparison is named in a filter. -/
def filterKey : Comparison → Text
  | greaterOrEqual => "$gte".toList
  | lessOrEqual => "$lte".toList
  | greater => "$gt".toList
  | less => "$lt".toList
  | notEqual => "$ne".toList

theorem filterKey_inj {c d : Comparison} : c.filterKey = d.filterKey ↔ c = d := by
  cases c <;> cases d <;> decide

end Comparison

namespace Operator

/-- How an operator is written in a query. -/
def symbol : Operator → Text
  | comparison c => c.symbol
  | equality => [':']

/-- How an operator is named in a filter; equality has no name there. -/
def filterKey? : Operator → Option Text
  | comparison c => some c.filterKey
  | equality => none

/-- Whether an operator is equality. -/
def isEquality : Operator → Bool
  | comparison _ => false
  | equality => true

/-- The operators in the order in which a token is searched for them (`OPERATOR_PRIORITY`). An
operator comes before those whose symbol is part of its own. -/
def priority : List Operator :=
  [.comparison .greaterOrEqual, .comparison .lessOrEqual, .comparison .greater,
    .comparison .less, .comparison .notEqual, .equality]

/-- The first operator in priority order whose symbol occurs in a token (`detect_operator`). -/
def detect? (token : Text) : Option Operator :=
  priority.find? fun operator => Text.occursIn operator.symbol token

theorem mem_priority (operator : Operator) : operator ∈ priority := by
  cases operator with
  | comparison c => cases c <;> decide
  | equality => decide

theorem symbol_ne_nil (operator : Operator) : operator.symbol ≠ [] := by
  cases operator with
  | comparison c => cases c <;> decide
  | equality => decide

end Operator

end SearchFilter
