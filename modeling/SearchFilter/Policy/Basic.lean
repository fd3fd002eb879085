import SearchFilter.Text.Basic

/-!
# Policies

The choices that govern a compilation: what counts as a number or a truth value, and what becomes of
a token that is no term.

* `Matching.ofWord?_word`: a choice of matching is told by its word.
* `Unparsed.ofWord?_word`: so is a choice for tokens that are no terms.
-/

namespace SearchFilter

/-- How much of a raw value must look like a number or a truth value for it to be taken as one
(`MatchMode`). -/
inductive Matching where
  /-- Any part of it: `40x` is taken as a number. -/
  | unanchored
  /-- The whole of it: `40x` is a string. -/
  | anchored
  deriving DecidableEq

/-- What becomes of a token that is no term (`UnparsedTermPolicy`). -/
inductive Unparsed where
  | drop
  | error
  deriving DecidableEq

/-- The choices for one compilation. -/
structure Policies where
  matching : Matching := .unanchored
  unparsed : Unparsed := .drop
  deriving DecidableEq

namespace Matching

/-- The word for a choice. -/
def word : Matching → Text
  | unanchored => "unanchored".toList
  | anchored => "anchored".toList

/-- The choices, the default first. -/
def all : List Matching := [unanchored, anchored]

/-- The choice that a word stands for. -/
def ofWord? (word : Text) : Option Matching := all.find? fun choice => choice.word == word

theorem ofWord?_word (choice : Matching) : ofWord? choice.word = some choice := by
  cases choice <;> decide

end Matching

namespace Unparsed

/-- The word for a choice. -/
def word : Unparsed → Text
  | drop => "drop".toList
  | error => "error".toList

/-- The choices, the default first. -/
def all : List Unparsed := [drop, error]

/-- The choice that a word stands for. -/
def ofWord? (word : Text) : Option Unparsed := all.find? fun choice => choice.word == word

theorem ofWord?_word (choice : Unparsed) : ofWord? choice.word = some choice := by
  cases choice <;> decide

end Unparsed

end SearchFilter
