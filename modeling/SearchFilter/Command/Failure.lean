import SearchFilter.Failure

/-!
# Failures of a command

An error in a query becomes an error of the command, with an exit code of its own; a fault stays
what it is and is reported as an internal error.
-/

namespace SearchFilter

/-- An error of a command, with the exit code that it leads to (`CLIError`). -/
structure CommandError where
  message : Text
  exitCode : Int := 1
  typeName : Text := "error".toList
  hint : Option Text := none
  details : Option (List (Text × Json)) := none

/-- Why a command failed. -/
inductive CommandFailure where
  | command (error : CommandError)
  | query (error : QueryError)
  | fault (fault : Fault)

/-- What a result says about a failure. -/
structure ErrorInfo where
  typeName : Text
  message : Text
  hint : Option Text := none
  details : Option (List (Text × Json)) := none

namespace CommandFailure

/-- The failure of a compilation as the failure of a command. -/
def ofFailure : Failure → CommandFailure
  | .query error => query error
  | .fault f => fault f

/-- A query error as an error of the command; its details are left out if there are none. -/
def ofQueryError (error : QueryError) : CommandError :=
  { message := error.statement
    exitCode := 2
    typeName := error.typeName
    hint := error.hint
    details := if error.details.isEmpty then none else some error.details }

/-- A failure with query errors turned into errors of the command (`normalize_exception`). -/
def normalize : CommandFailure → CommandFailure
  | query error => command (ofQueryError error)
  | failure => failure

/-- The exit code that a failure leads to (`exit_code_for_exception`). -/
def exitCode : CommandFailure → Int
  | command error => error.exitCode
  | _ => 1

/-- The words of an internal error, or its name if it has none. -/
def internal (name message : Text) : ErrorInfo :=
  { typeName := "internal_error".toList
    message := if message.isEmpty then name else message }

/-- What a result says about a failure (`error_info_for_exception`). -/
def info : CommandFailure → ErrorInfo
  | command error => ⟨error.typeName, error.message, error.hint, error.details⟩
  | query error => internal "FindExprError".toList error.message
  | fault f => internal f.kind.name f.message

end CommandFailure

end SearchFilter
