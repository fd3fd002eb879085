import SearchFilter.Command.Table
import SearchFilter.Compile

/-!
# Consoles

What a command shows to a reader goes to a console: messages, records of the run and tables. How
wide its lines are and where it breaks them is up to the console, which is therefore a parameter of
all that is written. `Console.wide` stands for the library `rich` where every message fits on one
line.

A notice on the standard error is a message of the program, a record, or the line about a statement
of the env file that could not be read; the last one does not go through the console.

* `Console.print_append`: notices are shown one behind the other.
-/

namespace SearchFilter

namespace Output

/-- Lines, each with its line feed. -/
def unlines (lines : List Text) : Text := lines.flatMap (· ++ ['\n'])

theorem unlines_append (lines more : List Text) :
    unlines (lines ++ more) = unlines lines ++ unlines more :=
  List.flatMap_append

end Output

/-- What is shown on the standard error. -/
inductive Notice where
  | message (text : Text)
  /-- A statement of the env file, by its line, that could not be read. -/
  | unread (line : Nat)
  | record (event : Event)

/-- A console: the lines in which it shows a message, a record and a table with its header. A
message may be broken and filled up with spaces, but shows no characters that are not its own. -/
structure Console where
  message : Text → List Text
  record : Event → List Text
  table : List Text → List (List Text) → List Text
  mem_message : ∀ {text line : Text} {c : Char}, line ∈ message text → c ∈ line →
    c ∈ text ∨ c = ' '

namespace Console

/-- The console on which every message fits on one line. -/
def wide : Console where
  message text := [text]
  record event := [event.level ++ "    ".toList ++ event.origin ++ ": ".toList ++ event.message]
  table := Table.lines
  mem_message hline hc := Or.inl (List.mem_singleton.1 hline ▸ hc)

/-- The notice of a statement of an env file, by its line, that could not be read. -/
def unreadNotice (line : Nat) : Text :=
  "python-dotenv could not parse statement starting at line ".toList ++ Binary64.numeral line

variable (console : Console)

/-- The lines for a notice. -/
def lines : Notice → List Text
  | .message text => console.message text
  | .unread line => [unreadNotice line]
  | .record event => console.record event

/-- What is written for notices, one behind the other. -/
def print (notices : List Notice) : Text := Output.unlines (notices.flatMap console.lines)

theorem print_append (notices more : List Notice) :
    console.print (notices ++ more) = console.print notices ++ console.print more := by
  rw [Console.print, List.flatMap_append, Output.unlines_append]
  rfl

/-- The notices of an env file are lines of their own on every console. -/
theorem print_unread (lines : List Nat) :
    console.print (lines.map .unread) = Output.unlines (lines.map unreadNotice) := by
  rw [Console.print, List.flatMap_map, List.map_eq_flatMap]
  rfl

end Console

end SearchFilter
