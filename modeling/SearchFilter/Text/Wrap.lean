import SearchFilter.Text.Blank
import SearchFilter.Text.Width

/-!
# Lines of a given width

Lines and words, and a text laid out in lines of a given width. Words keep the blanks behind them,
so that a line break between two words loses nothing; only blanks that stand past the width are
dropped. This stands for the way in which the library `rich` breaks a cell of a table.
-/

namespace SearchFilter

namespace Text

/-! ### Lines -/

/-- A character that ends a line. -/
def isLineBreak (c : Char) : Bool :=
  let n := c.toNat
  (0x0A ≤ n && n ≤ 0x0D) || (0x1C ≤ n && n ≤ 0x1E) || n == 0x85 || n == 0x2028 || n == 0x2029

/-- The stretches of a text between its line breaks. -/
def lines : Text → List Text
  | [] => [[]]
  | c :: text =>
    if isLineBreak c then [] :: lines text
    else
      match lines text with
      | [] => [[c]]
      | line :: more => (c :: line) :: more

/-- The cells of a text's widest line. -/
def widestLine (text : Text) : Nat := ((lines text).map width).foldl max 0

/-! ### Words -/

/-- The words of a text. Each has the blanks behind it, and the first those before it. -/
def words : Text → List Text
  | [] => []
  | c :: text =>
    match words text with
    | [] => [[c]]
    | word :: more =>
      match isBlank c, word.takeWhile isBlank, word.dropWhile isBlank with
      | false, b :: blanks, d :: rest => (c :: b :: blanks) :: (d :: rest) :: more
      | _, _, _ => (c :: word) :: more

/-! ### Lines of a given width -/

/-- Words dealt out to lines: each joins the line so far (`line`, of `used` cells) if it
    fits there, blanks behind it not counted, and starts another line if not. -/
def deal (limit : Nat) (line : Text) (used : Nat) : List Text → List Text
  | [] => [line]
  | word :: more =>
    if line.isEmpty || used + width (trimEnd word) ≤ limit then
      deal limit (line ++ word) (used + width word) more
    else line :: deal limit word (width word) more

/-- A line without the blanks at its end that stand past a number of characters. -/
def trimPast (limit : Nat) (line : Text) : Text :=
  let blanks := (line.reverse.takeWhile isBlank).length
  line.take (line.length - min blanks (line.length - limit))

/-- A text in lines of a given width. Line feeds end a line, and so does a word that fits
    no more. -/
def wrap (limit : Nat) (text : Text) : List Text :=
  (pieces '\n' text).flatMap fun piece => (deal limit [] 0 (words piece)).map (trimPast limit)

end Text

end SearchFilter
