import SearchFilter.Command.Options
import SearchFilter.Command.Output
import SearchFilter.Command.Path

/-!
# What a command line asks for

Options of the program come first, then the name of a command with its own options and arguments.

* `format_json_iff`: output is JSON if the settings, the option for the output or a flag of the
  command say so.
-/

namespace SearchFilter

/-! ### Options of the program -/

/-- An option in front of the command. -/
inductive ProgramOption where
  | output
  | json
  | quiet
  | verbose
  | dotenv
  | noDotenv
  | envFile
  | version
  | help
  deriving DecidableEq

namespace ProgramOption

/-- The option with a full name. -/
def long? (name : Text) : Option ProgramOption :=
  let names : List (String × ProgramOption) :=
    [("--output", output), ("--json", json), ("--quiet", quiet), ("--dotenv", dotenv),
      ("--no-dotenv", noDotenv), ("--env-file", envFile), ("--version", version), ("--help", help)]
  (names.find? fun (known, _) => known.toList = name).map Prod.snd

/-- The option with a letter. -/
def short? (letter : Char) : Option ProgramOption :=
  if letter = 'q' then some quiet
  else if letter = 'v' then some verbose
  else if letter = 'h' then some help
  else none

/-- The options of the program. They end at the command's name. -/
def all : OptionSet ProgramOption :=
  { long?, short?, takesValue := fun option => option = output || option = envFile
    interspersed := false }

end ProgramOption

/-- The settings that the options of the program make. -/
structure ProgramSettings where
  output : Text := "table".toList
  json : Bool := false
  quiet : Bool := false
  verbosity : Nat := 0
  dotenv : Bool := false
  envFile : Text := ".env".toList
  deriving DecidableEq

namespace ProgramSettings

/-- Settings changed by one occurrence of an option; a later one takes the place of an
    earlier one. -/
def apply (settings : ProgramSettings) : ProgramOption × Text → ProgramSettings
  | (.output, value) => { settings with output := value }
  | (.json, _) => { settings with json := true }
  | (.quiet, _) => { settings with quiet := true }
  | (.verbose, _) => { settings with verbosity := settings.verbosity + 1 }
  | (.dotenv, _) => { settings with dotenv := true }
  | (.noDotenv, _) => { settings with dotenv := false }
  | (.envFile, value) => { settings with envFile := value }
  | (.version, _) => settings
  | (.help, _) => settings

/-- The choices for the output. -/
def outputs : List Text := ["table".toList, "json".toList]

/-- Settings that are allowed: the output is one of the choices, and the env file is no
    directory. -/
def check (files : Files) (settings : ProgramSettings) : Except UsageError ProgramSettings :=
  if !outputs.contains settings.output then
    .error (.invalidChoice "--output".toList settings.output outputs)
  else if files settings.envFile = .found .directory then
    .error (.isDirectory "--env-file".toList settings.envFile)
  else .ok settings

/-- Whether looking at the settings breaks down: a path with the character zero cannot even
    be looked up. A wrong output that is named before the path is found first. -/
def breaksDown (options : List (ProgramOption × Text)) (settings : ProgramSettings) : Bool :=
  settings.envFile.contains '\x00' &&
    (outputs.contains settings.output ||
      (options.find? fun (option, _) => option = .output || option = .envFile).any
        fun (option, _) => option = .envFile)

end ProgramSettings

/-! ### Options of a command -/

/-- An option behind a command's name (`policy_options`, `_json_after_subcommand`). -/
inductive CommandOption where
  | json
  | anchored
  | strict
  | help
  deriving DecidableEq

/-- The commands, by name. -/
inductive CommandName where
  | compile
  | explain
  | version
  deriving DecidableEq

namespace CommandName

/-- The name of a command. -/
def word : CommandName → Text
  | compile => "compile".toList
  | explain => "explain".toList
  | version => "version".toList

/-- The command with a name. -/
def ofWord? (word : Text) : Option CommandName :=
  [compile, explain, version].find? fun command => command.word = word

/-- Whether a command takes a query and the flags for policies. -/
def takesQuery : CommandName → Bool
  | version => false
  | _ => true

end CommandName

namespace CommandOption

/-- The option of a command with a full name. -/
def long? (command : CommandName) (name : Text) : Option CommandOption :=
  if name = "--json".toList then some json
  else if name = "--help".toList then some help
  else if command.takesQuery && name = "--anchored".toList then some anchored
  else if command.takesQuery && name = "--strict".toList then some strict
  else none

/-- The option of a command with a letter. -/
def short? (letter : Char) : Option CommandOption := if letter = 'h' then some help else none

/-- The options of a command. They may stand among its arguments. -/
def all (command : CommandName) : OptionSet CommandOption :=
  { long? := long? command, short?, takesValue := fun _ => false, interspersed := true }

end CommandOption

/-- A command with what it works on. -/
inductive Command where
  | compile (query : Text) (anchored strict : Bool)
  | explain (query : Text) (anchored strict : Bool)
  | version
  deriving DecidableEq

/-! ### Command lines -/

/-- What a command line asks for. -/
inductive Invocation where
  /-- The help for a command, or else for the program. -/
  | help (command : Option CommandName)
  | version
  | misuse (error : UsageError)
  /-- The settings cannot even be looked at. -/
  | breakdown
  | run (settings : ProgramSettings) (format : Format) (command : Command)
  deriving DecidableEq

namespace Invocation

/-- What options of the program ask for before all else: help or the version, whichever
    stands first. -/
def urgent? (options : List (ProgramOption × Text)) : Option Invocation :=
  options.findSome? fun (option, _) =>
    match option with
    | .help => some (help none)
    | .version => some version
    | _ => none

/-- The form of the output: JSON if a flag asks for it before or behind the command's
    name, or if the output option does. -/
def formatOf (settings : ProgramSettings) (options : List (CommandOption × Text)) : Format :=
  if settings.json || settings.output = "json".toList || options.any (·.1 = .json) then .json
  else .table

/-- Reads a command's arguments: the query, or nothing. -/
def commandOf (name : CommandName) (options : List (CommandOption × Text))
    (arguments : List Text) : Except UsageError Command :=
  let anchored := options.any (·.1 = .anchored)
  let strict := options.any (·.1 = .strict)
  match name, arguments with
  | .version, [] => .ok .version
  | .version, extra :: _ => .error (.extraArgument extra)
  | _, [] => .error (.missingArgument "QUERY".toList)
  | _, _ :: extra :: _ => .error (.extraArgument extra)
  | .compile, [query] => .ok (.compile query anchored strict)
  | .explain, [query] => .ok (.explain query anchored strict)

/-- Reads the words behind a command's name. -/
def ofCommand (settings : ProgramSettings) (name : CommandName) (words : List Text) :
    Invocation :=
  match (CommandOption.all name).scan words with
  | .error error => misuse error
  | .ok (options, arguments) =>
    if options.any (·.1 = .help) then help (some name)
    else
      match commandOf name options arguments with
      | .error error => misuse error
      | .ok command => run settings (formatOf settings options) command

/-- What an unknown command asks for. A name that looks like an option, which it can only
    behind `--`, is read as one once more: help and the version are still given. -/
def ofUnknown (name : Text) (words : List Text) : Invocation :=
  match ProgramOption.all.scan (name :: words) with
  | .ok (options, _) => (urgent? options).getD (misuse (.unknownCommand name))
  | .error error => misuse error

/-- Reads a command line (`cli`). -/
def ofArguments (files : Files) (arguments : List Text) : Invocation :=
  match ProgramOption.all.scan arguments with
  | .error error => misuse error
  | .ok (options, rest) =>
    -- help and the version come before the settings are looked at
    match urgent? options with
    | some invocation => invocation
    | none =>
      let settings := options.foldl ProgramSettings.apply {}
      if settings.breaksDown options then breakdown
      else
        match settings.check files with
        | .error error => misuse error
        | .ok settings =>
          match rest with
          | [] => help none
          | name :: words =>
            match CommandName.ofWord? name with
            | some command => ofCommand settings command words
            | none => ofUnknown name words

end Invocation

end SearchFilter
