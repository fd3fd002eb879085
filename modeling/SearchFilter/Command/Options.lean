import SearchFilter.Text.Quoted

/-!
# Options and arguments in general

A word that starts with a hyphen and goes on is an option, written in full behind two hyphens or by
letters behind one; a word `--` ends the options. A value may follow behind an equals sign or as the
next word. The reading stops at the first error.

`OptionSet.scan` and `UsageError.message` stand for the library `click`, by its documented rules for
command lines and its words for errors.
-/

namespace SearchFilter

/-- What is wrong with the words of a command line. -/
inductive UsageError where
  | unknownOption (name : Text)
  | missingValue (name : Text)
  | unwantedValue (name : Text)
  | invalidChoice (name value : Text) (choices : List Text)
  | isDirectory (name path : Text)
  | unknownCommand (name : Text)
  | missingArgument (name : Text)
  | extraArgument (value : Text)
  deriving DecidableEq

namespace UsageError

/-- The words for an error. -/
def message : UsageError → Text
  | unknownOption name => "No such option: ".toList ++ name
  | missingValue name => "Option ".toList ++ Text.quoted name ++ " requires an argument.".toList
  | unwantedValue name => "Option ".toList ++ Text.quoted name ++ " does not take a value.".toList
  | invalidChoice name value choices =>
    "Invalid value for ".toList ++ Text.quoted name ++ ": ".toList ++ Text.quoted value ++
      " is not one of ".toList ++ List.intercalate [',', ' '] (choices.map Text.quoted) ++ ['.']
  | isDirectory name path =>
    "Invalid value for ".toList ++ Text.quoted name ++ ": File ".toList ++ Text.quoted path ++
      " is a directory.".toList
  | unknownCommand name => "No such command ".toList ++ Text.quoted name ++ ['.']
  | missingArgument name => "Missing argument ".toList ++ Text.quoted name ++ ['.']
  | extraArgument value =>
    "Got unexpected extra argument (".toList ++ value ++ [')']

end UsageError

/-- The options of a command, by their names. -/
structure OptionSet (ι : Type) where
  /-- The option behind two hyphens, with its hyphens. -/
  long? : Text → Option ι
  /-- The option for a letter. No such option takes a value. -/
  short? : Char → Option ι
  takesValue : ι → Bool
  /-- Whether options may follow an argument. -/
  interspersed : Bool

namespace OptionSet

variable {ι : Type}

/-- What a word says about options: the options named by its letters, or one option with
    the value behind its equals sign. -/
inductive Word (ι : Type) where
  | letters (options : List ι)
  | full (option : ι) (name : Text) (value : Option Text)

/-- Reads the letters of a word behind its hyphen. -/
def readLetters (options : OptionSet ι) : Text → Except UsageError (List ι)
  | [] => .ok []
  | c :: letters =>
    match options.short? c with
    | none => .error (.unknownOption ['-', c])
    | some option => (option :: ·) <$> options.readLetters letters

/-- Reads a word that names options. -/
def readWord (options : OptionSet ι) (word : Text) : Except UsageError (Word ι) :=
  let (name, value) :=
    match Text.cutAt? ['='] word with
    | some (name, value) => (name, some value)
    | none => (word, none)
  match options.long? name with
  | some option => .ok (.full option name value)
  | none =>
    -- letters keep the equals sign: it is no letter of any option
    match word with
    | '-' :: '-' :: _ => .error (.unknownOption name)
    | _ => .letters <$> options.readLetters (word.drop 1)

/-- Whether a word names options, wherever options may stand. -/
def isOption : Text → Bool
  | '-' :: _ :: _ => true
  | _ => false

/-- Reads the words of a command: the options in the order of their occurrence, each with
    its value (empty if it takes none), and the arguments. Unless options may follow
    arguments, the first argument ends the options. -/
def scan (options : OptionSet ι) :
    List Text → Except UsageError (List (ι × Text) × List Text)
  | [] => .ok ([], [])
  | word :: words =>
    if word = ['-', '-'] then .ok ([], words)
    else if isOption word then
      match options.readWord word with
      | .error error => .error error
      | .ok (.letters found) =>
        (options.scan words).map fun (later, arguments) =>
          (found.map (·, []) ++ later, arguments)
      | .ok (.full option name value) =>
        if options.takesValue option then
          match value with
          | some value =>
            (options.scan words).map fun (later, arguments) => ((option, value) :: later, arguments)
          | none =>
            match words with
            | [] => .error (.missingValue name)
            | value :: rest =>
              (options.scan rest).map fun (later, arguments) =>
                ((option, value) :: later, arguments)
        else if value.isSome then .error (.unwantedValue name)
        else
          (options.scan words).map fun (later, arguments) => ((option, []) :: later, arguments)
    else if options.interspersed then
      (options.scan words).map fun (later, arguments) => (later, word :: arguments)
    else .ok ([], word :: words)

end OptionSet

end SearchFilter
