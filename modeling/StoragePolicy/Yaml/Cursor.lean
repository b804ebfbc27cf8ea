/-!
# Reading Positions

A place in a YAML text: what is still unread, and how far into the text, into
which line and how far into that line it lies. Columns decide the structure of
a document, and a line break of any of its five forms starts a new column.

The end of the text is answered with the null character, which no YAML text
holds, so a test for a character never has to ask first whether there is one.

## Main definitions

* `Cursor`: A place in a text.
* `Cursor.peek`: The character some places ahead.
* `Cursor.skip`, `Cursor.skipBreak`: Moving over a character or a line break.
* `Cursor.takeWhile`: Moving over a run inside a line.
* `Cursor.breakChar`: How a line break is kept in a scalar.
-/

namespace StoragePolicy

namespace Yaml

/-- The ends of a line: carriage return, line feed, next line, line separator
    and paragraph separator. -/
def isBreak (c : Char) : Bool :=
  c == '\r' || c == '\n' || c == '\u0085' || c == '\u2028' || c == '\u2029'

/-- The null character, which stands for the end of the text. -/
def isEnd (c : Char) : Bool := c == '\x00'

/-- Space or tab. -/
def isSpaceOrTab (c : Char) : Bool := c == ' ' || c == '\t'

/-- The end of a line or of the text. -/
def isBreakOrEnd (c : Char) : Bool := isBreak c || isEnd c

/-- Anything that ends a word. -/
def isGap (c : Char) : Bool := isSpaceOrTab c || isBreakOrEnd c

/-- The characters of names: ASCII letters, digits, underscore and hyphen. -/
def isWordChar (c : Char) : Bool := c.isAlphanum || c == '_' || c == '-'

/-- The value of a hexadecimal digit. -/
def hexDigit? (c : Char) : Option Nat :=
  if c.isDigit then some (c.toNat - '0'.toNat)
  else if 'a' ≤ c && c ≤ 'f' then some (c.toNat - 'a'.toNat + 10)
  else if 'A' ≤ c && c ≤ 'F' then some (c.toNat - 'A'.toNat + 10)
  else none

/-- A place in a text. -/
structure Cursor where
  rest : List Char
  index : Nat := 0
  line : Nat := 0
  column : Nat := 0

namespace Cursor

/-- The beginning of a text. -/
def start (text : List Char) : Cursor := { rest := text }

/-- The next character. -/
def current (c : Cursor) : Char := c.rest.headD '\x00'

/-- The character some places ahead. -/
def peek (c : Cursor) (ahead : Nat) : Char := (c.rest.drop ahead).headD '\x00'

/-- Moves over some characters, none of them a line break. -/
def skipMany (c : Cursor) (count : Nat) : Cursor :=
  { c with
    rest := c.rest.drop count, index := c.index + count, column := c.column + count }

/-- Moves over one character that is no line break. -/
def skip (c : Cursor) : Cursor := c.skipMany 1

/-- Moves over a line break, if one is next. The two characters of a break that
    is written with two are one break. -/
def skipBreak (c : Cursor) : Cursor :=
  match c.rest with
  | '\r' :: '\n' :: rest => { rest, index := c.index + 2, line := c.line + 1, column := 0 }
  | b :: rest =>
    if isBreak b then { rest, index := c.index + 1, line := c.line + 1, column := 0 } else c
  | [] => c

/-- How a line break is kept in a scalar: separators as they are, everything
    else as a line feed. -/
def breakChar (c : Cursor) : Char :=
  let b := c.current
  if b == '\u2028' || b == '\u2029' then b else '\n'

/-- Moves over a run of characters, none of them a line break. -/
def takeWhile (c : Cursor) (p : Char → Bool) : List Char × Cursor :=
  let run := c.rest.takeWhile fun x => p x && !isBreak x
  (run, c.skipMany run.length)

/-- Moves over a run of characters, none of them a line break. -/
def skipWhile (c : Cursor) (p : Char → Bool) : Cursor := (c.takeWhile p).2

/-- Moves over a comment, if one is next. -/
def skipComment (c : Cursor) : Cursor :=
  if c.current == '#' then c.skipWhile fun _ => true else c

/-- Whether a line begins here with three of the given character and nothing
    more in the word: the mark between documents. -/
def atMark (c : Cursor) (mark : Char) : Bool :=
  c.column == 0 && c.peek 0 == mark && c.peek 1 == mark && c.peek 2 == mark && isGap (c.peek 3)

end Cursor

end Yaml

end StoragePolicy
