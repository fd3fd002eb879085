import SearchFilter.Failure
import SearchFilter.OrderedMap
import SearchFilter.Policy.Basic
import SearchFilter.Text.Blank
import SearchFilter.Text.LowerCase

/-!
# Policies from the environment

Each choice has a variable; where it is unset or blank the default holds, and otherwise its value
must be one of the choice's words, in any case and with any white space around it.

* `ofEnvironment_congr`: only the two variables matter.
-/

namespace SearchFilter

/-- The variables of a process. -/
abbrev Environment := OrderedMap Text Text

namespace Policies

/-- The variable for the choice of matching. -/
def matchingVariable : Text := "FINDEXPR_MATCHING".toList

/-- The variable for what becomes of unparsed tokens. -/
def unparsedVariable : Text := "FINDEXPR_UNPARSED".toList

/-- Reads the choice that a variable makes (`_read_enum`). An error shows the value as it is. -/
def readChoice {α : Type} (ofWord? : Text → Option α) (allowed : List Text) (default : α)
    (environment : Environment) (name : Text) : Except QueryError α :=
  match environment.get? name with
  | none => .ok default
  | some raw =>
    let word := Text.trim raw
    if word.isEmpty then .ok default
    else
      match ofWord? (Text.lowerCase word) with
      | some choice => .ok choice
      | none => .error (.configuration name raw allowed)

/-- The choice of matching that an environment makes. -/
def readMatching (environment : Environment) : Except QueryError Matching :=
  readChoice Matching.ofWord? (Matching.all.map Matching.word) .unanchored environment
    matchingVariable

/-- The choice for unparsed tokens that an environment makes. -/
def readUnparsed (environment : Environment) : Except QueryError Unparsed :=
  readChoice Unparsed.ofWord? (Unparsed.all.map Unparsed.word) .drop environment
    unparsedVariable

/-- The policies that an environment chooses (`policies_from_env`). -/
def ofEnvironment (environment : Environment) : Except QueryError Policies := do
  let matching ← readMatching environment
  let unparsed ← readUnparsed environment
  return { matching, unparsed }

/-- Policies with the choices that flags insist on. -/
def override (anchored strict : Bool) (policies : Policies) : Policies :=
  { matching := if anchored then .anchored else policies.matching
    unparsed := if strict then .error else policies.unparsed }

/-- Environments that agree on the two variables choose the same policies. -/
theorem ofEnvironment_congr {e f : Environment}
    (hmatching : e.get? matchingVariable = f.get? matchingVariable)
    (hunparsed : e.get? unparsedVariable = f.get? unparsedVariable) :
    ofEnvironment e = ofEnvironment f := by
  simp [ofEnvironment, readMatching, readUnparsed, readChoice, hmatching, hunparsed]

end Policies

end SearchFilter
