import StoragePolicy.Yaml.Cursor

/-!
# Scalars

Reading the text of a scalar in each of its five styles. What the styles share
is how they treat the white space inside them: a run on one line is kept, a
single line break becomes a space, and of several the first is dropped and the
others kept. Blanks around a break go away.

Each function starts at the first character of the scalar and returns its value
and the place behind it, or nothing when the text is no YAML. The loops count
down the characters that are left, and each turn takes at least one.

## Main definitions

* `Gap`: A run of white space inside a scalar, and its value.
* `plain`: A scalar without quotes.
* `quotedScalar`: A scalar in single or double quotes.
* `block`: A literal or folded scalar.
-/

namespace StoragePolicy

namespace Yaml

/-- A run of white space inside a scalar: blanks on one line, or a first line
    break and those after it. -/
structure Gap where
  blanks : List Char := []
  broken : Bool := false
  first : Option Char := none
  others : List Char := []

namespace Gap

/-- What the run stands for in the value. -/
def fold (g : Gap) : List Char :=
  if g.broken then
    match g.first with
    | some '\n' => if g.others.isEmpty then [' '] else g.others
    | some b => b :: g.others
    | none => g.others
  else g.blanks

/-- Takes a run of white space. Where a bound is given, a tab in a later line
    before that column is refused. -/
def read (bound : Option Nat) (g : Gap) (c : Cursor) : Nat → Option (Gap × Cursor)
  | 0 => some (g, c)
  | fuel + 1 =>
    let x := c.current
    if isSpaceOrTab x then
      if g.broken && x == '\t' && bound.any (c.column < ·) then none
      else if g.broken then read bound g c.skip fuel
      else read bound { g with blanks := g.blanks ++ [x] } c.skip fuel
    else if isBreak x then
      if g.broken then read bound { g with others := g.others ++ [c.breakChar] } c.skipBreak fuel
      else
        let g := { g with blanks := [], broken := true, first := some c.breakChar }
        read bound g c.skipBreak fuel
    else some (g, c)

end Gap

/-- The characters that end a plain scalar inside a flow collection. -/
def isFlowMark (c : Char) : Bool := c == ',' || c == '[' || c == ']' || c == '\x7b' || c == '\x7d'

/-- The characters of a plain scalar up to the next white space or mark. A
    colon ends it before a gap; inside a flow collection a colon right before
    one of its marks is refused. -/
def plainWord (inFlow : Bool) (c : Cursor) : Nat → Option (List Char × Cursor)
  | 0 => some ([], c)
  | fuel + 1 =>
    let x := c.current
    let after := c.peek 1
    if isGap x then some ([], c)
    else if inFlow && x == ':' && (isFlowMark after || after == '?') then none
    else if (x == ':' && isGap after) || (inFlow && isFlowMark x) then some ([], c)
    else (plainWord inFlow c.skip fuel).map fun (word, c) => (x :: word, c)

/-- The rest of a plain scalar: words with the gaps between them. The last
    answer tells whether the scalar was followed by a line break. -/
def plainWords (inFlow : Bool) (bound : Nat) (g : Gap) (c : Cursor) :
    Nat → Option (List Char × Bool × Cursor)
  | 0 => some ([], g.broken, c)
  | fuel + 1 => do
    if c.atMark '-' || c.atMark '.' || c.current == '#' then
      return ([], g.broken, c)
    let (word, c) ← plainWord inFlow c c.rest.length
    let kept := if word.isEmpty then [] else g.fold ++ word
    let pending := if word.isEmpty then g else {}
    if !isGap c.current || isEnd c.current then
      return (kept, pending.broken, c)
    let (g, c) ← pending.read (some bound) c c.rest.length
    if !inFlow && c.column < bound then
      return (kept, g.broken, c)
    let (more, broken, c) ← plainWords inFlow bound g c fuel
    return (kept ++ more, broken, c)

/-- A scalar without quotes. Outside flow collections its later lines have to
    be indented to `bound` at least. -/
def plain (inFlow : Bool) (bound : Nat) (c : Cursor) : Option (List Char × Bool × Cursor) :=
  plainWords inFlow bound {} c (c.rest.length + 1)

/-- What a letter after a backslash stands for, where it stands for one
    character. -/
def namedEscape? : Char → Option Char
  | '0' => some '\x00'
  | 'a' => some '\x07'
  | 'b' => some '\x08'
  | 't' => some '\t'
  | '\t' => some '\t'
  | 'n' => some '\n'
  | 'v' => some '\x0b'
  | 'f' => some '\x0c'
  | 'r' => some '\r'
  | 'e' => some '\x1b'
  | ' ' => some ' '
  | '"' => some '"'
  | '/' => some '/'
  | '\\' => some '\\'
  | 'N' => some '\u0085'
  | '_' => some '\u00a0'
  | 'L' => some '\u2028'
  | 'P' => some '\u2029'
  | _ => none

/-- How many hexadecimal digits follow a letter after a backslash. -/
def codeLength? : Char → Option Nat
  | 'x' => some 2
  | 'u' => some 4
  | 'U' => some 8
  | _ => none

/-- The number that hexadecimal digits stand for. -/
def hexNumber? (digits : List Char) : Option Nat :=
  digits.foldlM (fun n c => (hexDigit? c).map (16 * n + ·)) 0

/-- An escape, from its backslash on. -/
def escape (c : Cursor) : Option (Char × Cursor) :=
  let letter := c.peek 1
  match namedEscape? letter with
  | some x => some (x, c.skipMany 2)
  | none => do
    let length ← codeLength? letter
    let digits := (c.rest.drop 2).take length
    if digits.length ≠ length then none
    let n ← hexNumber? digits
    if (0xD800 ≤ n ∧ n ≤ 0xDFFF) ∨ 0x10FFFF < n then none
    return (Char.ofNat n, c.skipMany (2 + length))

/-- The characters of a quoted scalar up to the next white space or the closing
    quote. The last answer tells whether an escaped line break came first. -/
def quotedWord (single : Bool) (c : Cursor) : Nat → Option (List Char × Bool × Cursor)
  | 0 => some ([], false, c)
  | fuel + 1 =>
    let x := c.current
    if isGap x then some ([], false, c)
    else if single && x == '\'' && c.peek 1 == '\'' then
      (quotedWord single (c.skipMany 2) fuel).map fun (word, rest) => ('\'' :: word, rest)
    else if x == (if single then '\'' else '"') then some ([], false, c)
    else if !single && x == '\\' && isBreak (c.peek 1) then some ([], true, c.skip.skipBreak)
    else if !single && x == '\\' then do
      let (e, c) ← escape c
      (quotedWord single c fuel).map fun (word, rest) => (e :: word, rest)
    else (quotedWord single c.skip fuel).map fun (word, rest) => (x :: word, rest)

/-- The rest of a quoted scalar, up to and with its closing quote. -/
def quotedWords (single : Bool) (c : Cursor) : Nat → Option (List Char × Cursor)
  | 0 => none
  | fuel + 1 => do
    if c.atMark '-' || c.atMark '.' || isEnd c.current then none
    let (word, broken, c) ← quotedWord single c c.rest.length
    if c.current == (if single then '\'' else '"') then return (word, c.skip)
    let (g, c) ← ({ broken } : Gap).read none c c.rest.length
    let (more, c) ← quotedWords single c fuel
    return (word ++ g.fold ++ more, c)

/-- A scalar in single or double quotes, from its opening quote on. -/
def quotedScalar (single : Bool) (c : Cursor) : Option (List Char × Cursor) :=
  quotedWords single c.skip (c.rest.length + 1)

/-- What is done with the line breaks at the end of a block scalar. -/
inductive Chomping where
  | strip
  | clip
  | keep
  deriving DecidableEq

/-- The sign that chooses a chomping, if one is next. -/
def chompingSign? (c : Cursor) : Option Chomping :=
  if c.current == '+' then some .keep else if c.current == '-' then some .strip else none

/-- The digit that fixes an indentation, if one is next; zero is refused. -/
def indentDigit (c : Cursor) : Option (Option Nat × Cursor) :=
  let x := c.current
  if x == '0' then none
  else if x.isDigit then some (some (x.toNat - '0'.toNat), c.skip)
  else some (none, c)

/-- The head of a block scalar after its mark: chomping and indentation in
    either order. -/
def blockHead (c : Cursor) : Option (Chomping × Option Nat × Cursor) := do
  match chompingSign? c with
  | some chomping =>
    let (increment, c) ← indentDigit c.skip
    return (chomping, increment, c)
  | none =>
    let (increment, c) ← indentDigit c
    match increment, chompingSign? c with
    | some _, some chomping => return (chomping, increment, c.skip)
    | _, _ => return (.clip, increment, c)

/-- Empty lines and indentation before a line of a block scalar. Without an
    indentation yet, all spaces are taken and the widest column is kept. A tab
    where indentation is due is refused. -/
def blockGap (indent : Option Nat) (widest : Nat) (breaks : List Char) (c : Cursor) :
    Nat → Option (Nat × List Char × Cursor)
  | 0 => some (widest, breaks, c)
  | fuel + 1 =>
    let spaces := c.rest.takeWhile (· == ' ')
    let room := match indent with
      | none => spaces.length
      | some n => min spaces.length (n - c.column)
    let c := c.skipMany room
    let widest := max widest c.column
    if c.current == '\t' && (indent.all (c.column < ·)) then none
    else if isBreak c.current then
      blockGap indent widest (breaks ++ [c.breakChar]) c.skipBreak fuel
    else some (widest, breaks, c)

/-- The lines of a block scalar. `pending` is the break that ended the line
    before, `breaks` are the empty lines after it. -/
def blockLines (folding : Bool) (indent : Nat) (afterBlank : Bool) (pending : Option Char)
    (breaks : List Char) (c : Cursor) :
    Nat → Option (List Char × Option Char × List Char × Cursor)
  | 0 => some ([], pending, breaks, c)
  | fuel + 1 => do
    if c.column ≠ indent || isEnd c.current then return ([], pending, breaks, c)
    let startsBlank := isSpaceOrTab c.current
    let joined :=
      if folding && pending == some '\n' && !afterBlank && !startsBlank then
        if breaks.isEmpty then [' '] else []
      else pending.toList
    let (line, c) := c.takeWhile fun _ => true
    let ending := if isBreak c.current then some c.breakChar else none
    let (_, empty, c) ← blockGap (some indent) 0 [] c.skipBreak (c.rest.length + 1)
    let (more, rest) ← blockLines folding indent startsBlank ending empty c fuel
    return (joined ++ breaks ++ line ++ more, rest)

/-- A literal or folded scalar, from its mark on. `parent` is one more than the
    column of the collection around it, or zero outside of any. -/
def block (folding : Bool) (parent : Nat) (c : Cursor) : Option (List Char × Cursor) := do
  let (chomping, increment, c) ← blockHead c.skip
  let c := (c.skipWhile isSpaceOrTab).skipComment
  if !isBreakOrEnd c.current then none
  let c := c.skipBreak
  -- An increment counts from the column of the collection around the scalar.
  let fixed := increment.map (· + (parent - 1))
  let (widest, breaks, c) ← blockGap fixed 0 [] c (c.rest.length + 1)
  let indent := fixed.getD (max widest (max parent 1))
  let (lines, pending, breaks, c) ←
    blockLines folding indent false none breaks c (c.rest.length + 1)
  let tail := match chomping with
    | .strip => []
    | .clip => pending.toList
    | .keep => pending.toList ++ breaks
  return (lines ++ tail, c)

end Yaml

end StoragePolicy
