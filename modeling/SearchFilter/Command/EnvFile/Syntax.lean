import SearchFilter.Text.Basic
import SearchFilter.Text.Blank

/-!
# The text of env files

An env file is a list of statements, one to a line. A binding is `KEY=VALUE` or a key by itself,
possibly behind `export`. Values stand in single quotes, in double quotes or in none; quoted values
may hold line breaks and escapes, and a comment may follow. A byte order mark at the start of a file
is no part of its text.

These are the rules of one reader, `Reader.standard`, which stands for the parser of the library
`dotenv`. Whatever loads env files takes its reader as a parameter: a `Reader` may follow other
rules for quotes, escapes and comments at the end of a line, as long as blank lines and comments
bind nothing.

* `IsRemarks.statementsFrom_eq_nothing`: blank lines and comments are statements that say nothing.
-/

namespace SearchFilter

namespace EnvFile

/-! ### Characters -/

/-- A text with `\r\n` and `\r` turned into line feeds. -/
def unifyLineBreaks : Text → Text
  | [] => []
  | ['\r'] => ['\n']
  | '\r' :: c :: text =>
    if c = '\n' then unifyLineBreaks (c :: text) else '\n' :: unifyLineBreaks (c :: text)
  | c :: text => c :: unifyLineBreaks text

/-- A text without the byte order mark at its start. -/
def dropByteOrderMark : Text → Text
  | [] => []
  | c :: text => if c.toNat = 0xFEFF then text else c :: text

/-- White space other than a line break. -/
def isInlineBlank (c : Char) : Bool := Text.isBlank c && c != '\n' && c != '\r'

/-- A text without the white space at its start, up to the end of the line. -/
def skipInline (text : Text) : Text := text.dropWhile isInlineBlank

/-- The rest of a text behind the end of its first line. -/
def skipLine (text : Text) : Text := (text.dropWhile (· != '\n')).drop 1

/-! ### Values -/

/-- The characters up to the mark that closes a quoted value, and the text behind it. A
    backslash and the character behind it belong together, so that neither of them
    closes. -/
def takeQuoted? (mark : Char) : Text → Option (Text × Text)
  | [] => none
  | '\\' :: c :: text =>
    (takeQuoted? mark text).map fun (value, rest) => ('\\' :: c :: value, rest)
  | c :: text =>
    if c = mark then some ([], text)
    else (takeQuoted? mark text).map fun (value, rest) => (c :: value, rest)

/-- A text with its escapes replaced by the characters that they stand for. -/
def unescape (meaning : Char → Option Char) : Text → Text
  | '\\' :: c :: text =>
    match meaning c with
    | some d => d :: unescape meaning text
    | none => '\\' :: unescape meaning (c :: text)
  | c :: text => c :: unescape meaning text
  | [] => []

/-- The escapes of a value in single quotes. -/
def singleEscape (c : Char) : Option Char := if c = '\\' || c = '\'' then some c else none

/-- The escapes of a value in double quotes. -/
def doubleEscape (c : Char) : Option Char :=
  if c = '\\' || c = '\'' || c = '"' then some c
  else
    [('a', '\x07'), ('b', '\x08'), ('f', '\x0c'), ('n', '\n'), ('r', '\r'), ('t', '\t'),
      ('v', '\x0b')].lookup c

/-- A text up to the first number sign with white space in front of it. -/
def dropComment (afterBlank : Bool) : Text → Text
  | [] => []
  | c :: text =>
    if c = '#' && afterBlank then [] else c :: dropComment (Text.isBlank c) text

/-- The value at the start of a text, behind white space or not, and the rest of the text;
    none if a quote stays open. -/
def takeValue? (afterBlank : Bool) (text : Text) : Option (Text × Text) :=
  match text with
  | '\'' :: body =>
    (takeQuoted? '\'' body).map fun (value, rest) => (unescape singleEscape value, rest)
  | '"' :: body =>
    (takeQuoted? '"' body).map fun (value, rest) => (unescape doubleEscape value, rest)
  | _ =>
    let line := text.takeWhile (· != '\n')
    some (Text.trimEnd (dropComment afterBlank line), text.dropWhile (· != '\n'))

/-! ### Statements -/

/-- What a line of an env file comes to. -/
inductive Statement where
  /-- A key, and its value if it has one. -/
  | binding (key : Text) (value : Option Text)
  /-- A comment, or nothing. -/
  | nothing
  /-- A line that is none of these. -/
  | malformed
  deriving DecidableEq

/-- The name that a statement is about. -/
def Statement.name? : Statement → Option Text
  | binding name _ => some name
  | _ => none

/-- A text without the word `export` and white space at its start. -/
def skipExport (text : Text) : Text :=
  match Text.dropStart? "export".toList text with
  | some rest =>
    let after := skipInline rest
    if after.length < rest.length then after else text
  | none => text

/-- The key at the start of a text, and the rest of the text. A key in single quotes may
    hold any other character. -/
def takeKey? (text : Text) : Option (Text × Text) :=
  let (key, rest) :=
    match text with
    | '\'' :: body =>
      match body.span (· != '\'') with
      | (key, _ :: rest) => (key, rest)
      | (_, []) => ([], text)
    | _ => text.span fun c => c != '=' && c != '#' && !Text.isBlank c
  if key.isEmpty then none else some (key, rest)

/-- A statement that was read up to its line's end, where only a comment may follow. -/
def finish (statement : Statement) (text : Text) : Statement × Text :=
  let rest := skipInline text
  let rest := if rest.head? = some '#' then rest.dropWhile (· != '\n') else rest
  match rest with
  | [] => (statement, [])
  | c :: more => if c = '\n' then (statement, more) else (.malformed, skipLine rest)

/-- The statement that a text starts with, behind white space and `export`, and the text
    behind its line. -/
def takeBinding (text : Text) : Statement × Text :=
  match takeKey? text with
  | none => (.malformed, skipLine text)
  | some (key, rest) =>
    match skipInline rest with
    | '=' :: body =>
      let start := skipInline body
      match takeValue? (start.length < body.length) start with
      | some (value, rest) => finish (.binding key (some value)) rest
      | none => (.malformed, skipLine start)
    | rest => finish (.binding key none) rest

/-- The statement at the start of a text, and the text behind its line. -/
def takeStatement (text : Text) : Statement × Text :=
  let text := text.dropWhile Text.isBlank
  if text.isEmpty then (.nothing, [])
  else
    let text := skipExport text
    if text.head? = some '#' then finish .nothing text else takeBinding text

/-- The statements of a text, each with the number of the line where it starts or the
    blank lines in front of it do. The first argument bounds their number. -/
def statementsFrom : Nat → (line : Nat) → Text → List (Nat × Statement)
  | 0, _, _ => []
  | bound + 1, line, text =>
    if text.isEmpty then []
    else
      let (statement, rest) := takeStatement text
      let consumed := text.take (text.length - rest.length)
      (line, statement) :: statementsFrom bound (line + consumed.count '\n') rest

/-- The statements of a file. Each takes up a character at least. -/
def statements (content : Text) : List (Nat × Statement) :=
  let text := unifyLineBreaks (dropByteOrderMark content)
  statementsFrom text.length 1 text

/-! ### Remarks -/

variable {text : Text}

/-- A text of blank lines and comments. -/
inductive IsRemarks : Text → Prop
  | nil : IsRemarks []
  | blank {c : Char} {text : Text} (hc : Text.isBlank c = true) (h : IsRemarks text) :
      IsRemarks (c :: text)
  | comment {remark text : Text} (hremark : '\n' ∉ remark) (h : IsRemarks text) :
      IsRemarks ('#' :: remark ++ '\n' :: text)
  | last {remark : Text} (hremark : '\n' ∉ remark) : IsRemarks ('#' :: remark)

/-- Behind its blanks such a text is at its end or at a comment. -/
theorem IsRemarks.dropWhile_isBlank (h : IsRemarks text) :
    text.dropWhile Text.isBlank = [] ∨
      ∃ remark, '\n' ∉ remark ∧
        (text.dropWhile Text.isBlank = '#' :: remark ∨
          ∃ rest, IsRemarks rest ∧
            text.dropWhile Text.isBlank = '#' :: remark ++ '\n' :: rest) := by
  induction h with
  | nil => exact Or.inl rfl
  | blank hc _ ih =>
    rw [List.dropWhile_cons_of_pos hc]
    exact ih
  | @comment remark text hremark h _ => exact Or.inr ⟨remark, hremark, Or.inr ⟨text, h, rfl⟩⟩
  | @last remark hremark => exact Or.inr ⟨remark, hremark, Or.inl rfl⟩

/-- A text without a line feed is passed over as a whole. -/
theorem dropWhile_append_of_lineFeed_not_mem {remark : Text} (h : '\n' ∉ remark) (rest : Text) :
    (remark ++ rest).dropWhile (· != '\n') = rest.dropWhile (· != '\n') := by
  refine List.dropWhile_append_of_pos fun c hc => ?_
  rw [bne_iff_ne]
  rintro rfl
  exact h hc

/-- A comment is a statement that says nothing. -/
theorem takeStatement_comment {remark : Text} (h : text.dropWhile Text.isBlank = '#' :: remark) :
    takeStatement text = finish .nothing ('#' :: remark) := by
  rw [takeStatement, h]
  rfl

/-- A statement with a comment behind it ends with the line, or with the text. -/
theorem finish_comment {remark rest : Text} (h : '\n' ∉ remark) (statement : Statement)
    (hrest : rest = [] ∨ ∃ more, rest = '\n' :: more) :
    finish statement ('#' :: remark ++ rest) = (statement, rest.drop 1) := by
  have hmark : '\n' ∉ '#' :: remark := by simp [h]
  have hskip : skipInline ('#' :: remark ++ rest) = '#' :: remark ++ rest := rfl
  have hhead : ('#' :: remark ++ rest).head? = some '#' := rfl
  rw [finish, hskip, if_pos hhead, dropWhile_append_of_lineFeed_not_mem hmark]
  rcases hrest with rfl | ⟨more, rfl⟩
  · rfl
  · rfl

/-- Remarks are taken one by one, and remarks are left. -/
theorem IsRemarks.takeStatement_eq (h : IsRemarks text) :
    ∃ rest, IsRemarks rest ∧ takeStatement text = (.nothing, rest) := by
  rcases h.dropWhile_isBlank with hnil | ⟨remark, hremark, hlast | ⟨rest, hrest, hcomment⟩⟩
  · refine ⟨[], .nil, ?_⟩
    rw [takeStatement, hnil]
    rfl
  · refine ⟨[], .nil, ?_⟩
    rw [takeStatement_comment hlast, ← List.append_nil ('#' :: remark)]
    exact finish_comment hremark .nothing (Or.inl rfl)
  · refine ⟨rest, hrest, ?_⟩
    rw [takeStatement_comment hcomment]
    exact finish_comment hremark .nothing (Or.inr ⟨rest, rfl⟩)

theorem IsRemarks.statementsFrom_eq_nothing (h : IsRemarks text) (bound line : Nat) :
    ∀ entry ∈ statementsFrom bound line text, entry.2 = .nothing := by
  induction bound generalizing line text with
  | zero => exact List.forall_mem_nil _
  | succ bound ih =>
    rw [statementsFrom]
    split
    · exact List.forall_mem_nil _
    · obtain ⟨rest, hrest, htake⟩ := h.takeStatement_eq
      rw [htake]
      exact List.forall_mem_cons.2 ⟨rfl, ih hrest _⟩

/-! ### Readers -/

/-- A way to read env files. -/
structure Reader where
  /-- The statements of a file, each with the number of a line. -/
  statements : Text → List (Nat × Statement)
  /-- A file of blank lines and comments binds nothing. -/
  name?_eq_none : ∀ {content : Text}, IsRemarks (unifyLineBreaks (dropByteOrderMark content)) →
    ∀ entry ∈ statements content, entry.2.name? = none

/-- The reader that follows the rules above. -/
def Reader.standard : Reader where
  statements := EnvFile.statements
  name?_eq_none hremarks entry hentry := by
    rw [hremarks.statementsFrom_eq_nothing _ _ entry hentry]
    rfl

end EnvFile

end SearchFilter
