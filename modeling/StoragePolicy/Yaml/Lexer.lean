import StoragePolicy.Yaml.Scalar
import StoragePolicy.Yaml.Token

/-!
# From Text to Tokens

Cutting a YAML text into tokens. Two things are not said in the text and have
to be found out on the way.

The starts and ends of block collections follow from columns. The lexer keeps
the columns of the open collections; something further to the right opens one,
something further to the left closes those it no longer belongs to. Inside a
flow collection columns mean nothing.

A key is only known to be one when its colon comes. So the place of whatever
might be a key is remembered, one place for each flow collection around it, and
the tokens that introduce it are put in there later. Such a key has to end on
its own line and within 1024 characters. Where a block mapping stands, the next
entry has to turn out to be a key.

A text may only hold characters that YAML allows; this is checked for all of it
before anything else, comments included.

## Main definitions

* `PossibleKey`: A place where a key may have begun.
* `Lexer`: The tokens so far and what is known beside them.
* `Lexer.step`: One more token, with those that it brings along.
* `tokens?`: All tokens of a text.
-/

namespace StoragePolicy

namespace Yaml

/-- A place where a key may have begun. -/
structure PossibleKey where
  /-- How many tokens stand before it. -/
  place : Nat
  /-- Whether nothing but a key may stand here. -/
  required : Bool
  index : Nat
  line : Nat
  column : Nat

/-- The tokens so far and what is known beside them. -/
structure Lexer where
  cursor : Cursor
  tokens : Array Token := #[]
  /-- What may be a key in the innermost collection. -/
  key : Option PossibleKey := none
  /-- What may be a key in the flow collections around it. -/
  outer : List (Option PossibleKey) := []
  /-- Whether a key may begin here. -/
  keyAllowed : Bool := true
  /-- The columns of the open block collections, the innermost first. -/
  columns : List Nat := []

namespace Lexer

/-- Whether a flow collection is open. -/
def inFlow (l : Lexer) : Bool := !l.outer.isEmpty

/-- The column that the next line of a scalar has to reach. -/
def bound (l : Lexer) : Nat :=
  match l.columns with
  | column :: _ => column + 1
  | [] => 0

/-- Adds a token. -/
def emit (l : Lexer) (t : Token) : Lexer := { l with tokens := l.tokens.push t }

/-- Puts a token in before those from the given place on. -/
def emitAt (l : Lexer) (place : Nat) (t : Token) : Lexer :=
  { l with tokens := (l.tokens.extract 0 place).push t ++ l.tokens.extract place l.tokens.size }

/-- Moves the cursor over some characters of the line. -/
def advance (l : Lexer) (count : Nat) : Lexer := { l with cursor := l.cursor.skipMany count }

/-- Closes the block collections that the column does not belong to; without a
    column all of them. -/
def unroll (l : Lexer) (column : Option Nat) : Lexer :=
  if l.inFlow then l
  else
    let (closed, columns) := l.columns.span fun c => column.all (· < c)
    { l with
      columns, tokens := closed.foldl (fun tokens _ => tokens.push .blockEnd) l.tokens }

/-- Opens a block collection unless one is open at the column or to the right
    of it. The token goes to the given place, or to the end. -/
def roll (l : Lexer) (column : Nat) (place : Option Nat) (t : Token) : Lexer :=
  if l.inFlow || l.columns.head?.any (column ≤ ·) then l
  else
    let l := { l with columns := column :: l.columns }
    match place with
    | some place => l.emitAt place t
    | none => l.emit t

/-- Gives up what may have been a key, unless it had to be one. -/
def dropKey (l : Lexer) : Option Lexer :=
  if l.key.any (·.required) then none else some { l with key := none }

/-- Remembers that a key may begin here. -/
def saveKey (l : Lexer) : Option Lexer :=
  if l.keyAllowed then do
    let l ← l.dropKey
    let c := l.cursor
    return { l with
      key := some {
        place := l.tokens.size
        required := !l.inFlow && l.columns.head? == some c.column
        index := c.index
        line := c.line
        column := c.column } }
  else some l

/-- What is left of a possible key at the cursor: nothing once the key is too
    long or its line is over, which a required key must not be. -/
def PossibleKey.atCursor (c : Cursor) (key : Option PossibleKey) :
    Option (Option PossibleKey) :=
  match key with
  | none => some none
  | some k =>
    if k.line < c.line ∨ k.index + 1024 < c.index then
      if k.required then none else some none
    else some (some k)

/-- Gives up every possible key that can no longer be one. -/
def dropStaleKeys (l : Lexer) : Option Lexer := do
  let outer ← l.outer.reverse.mapM (PossibleKey.atCursor l.cursor)
  let key ← PossibleKey.atCursor l.cursor l.key
  return { l with key, outer := outer.reverse }

/-- Moves to the next token: over white space, comments and line breaks. A tab
    may not stand where a key of a block mapping could begin. -/
def toNextToken (l : Lexer) : Nat → Lexer
  | 0 => l
  | fuel + 1 =>
    let c := l.cursor
    let c := if c.column == 0 && c.current == '\ufeff' then c.skip else c
    let tabs := l.inFlow || !l.keyAllowed
    let c := (c.skipWhile fun x => x == ' ' || (tabs && x == '\t')).skipComment
    if isBreak c.current then
      toNextToken { l with cursor := c.skipBreak, keyAllowed := l.keyAllowed || !l.inFlow } fuel
    else { l with cursor := c }

/-- The number in a version, at most nine digits. -/
def versionNumber (c : Cursor) : Option (Nat × Cursor) :=
  let (digits, c) := c.takeWhile Char.isDigit
  if digits.isEmpty || 9 < digits.length then none
  else some (Nat.ofDigitChars 10 digits 0, c)

/-- The handle of a tag, from its exclamation mark on. -/
def tagHandle (c : Cursor) : List Char × Cursor :=
  let (word, c) := c.skip.takeWhile isWordChar
  if c.current == '!' then ('!' :: word ++ ['!'], c.skip) else ('!' :: word, c)

/-- The characters of a tag; commas and square brackets only where the tag has
    an end mark of its own. -/
def isTagChar (verbatim : Bool) (c : Char) : Bool :=
  isWordChar c || ";/?:@&=+$.%!~*'()".toList.contains c || (verbatim && ",[]".toList.contains c)

/-- An octet written with a percent sign. -/
def percentOctet (c : Cursor) : Option (Nat × Cursor) := do
  if c.current ≠ '%' then none
  let high ← hexDigit? (c.peek 1)
  let low ← hexDigit? (c.peek 2)
  return (16 * high + low, c.skipMany 3)

/-- Further octets of a character, each of them a continuation. -/
def percentTail (c : Cursor) : Nat → Option (List UInt8 × Cursor)
  | 0 => some ([], c)
  | count + 1 => do
    let (octet, c) ← percentOctet c
    if octet / 64 ≠ 2 then none
    let (octets, c) ← percentTail c count
    return (UInt8.ofNat octet :: octets, c)

/-- A character written as octets with percent signs. -/
def percentChar (c : Cursor) : Option (List UInt8 × Cursor) := do
  let (first, c) ← percentOctet c
  let count ←
    if first < 0x80 then some 0
    else if first / 32 = 6 then some 1
    else if first / 16 = 14 then some 2
    else if first / 8 = 30 then some 3
    else none
  let (octets, c) ← percentTail c count
  return (UInt8.ofNat first :: octets, c)

/-- The characters of a tag as octets. -/
def tagOctets (verbatim : Bool) (c : Cursor) : Nat → Option (List UInt8 × Cursor)
  | 0 => some ([], c)
  | fuel + 1 => do
    if !isTagChar verbatim c.current then return ([], c)
    let (octets, c) ←
      if c.current == '%' then percentChar c
      else some (String.utf8EncodeChar c.current, c.skip)
    let (more, c) ← tagOctets verbatim c fuel
    return (octets ++ more, c)

/-- The characters of a tag behind a part that has been read already. There has
    to be at least one, but a null octet ends what counts of them. Octets that
    are no text give a tag that nothing is compared with. -/
def tagText (verbatim : Bool) (head : List Char) (c : Cursor) : Option (String × Cursor) := do
  let (octets, c) ← tagOctets verbatim c c.rest.length
  if head.isEmpty && octets.isEmpty then none
  let counted := octets.takeWhile (· ≠ 0)
  let rest := (String.fromUTF8? counted.toByteArray).getD "\ufffd"
  return (String.ofList (head.drop 1) ++ rest, c)

/-- A line that begins with a percent sign. -/
def directive (l : Lexer) : Option Lexer := do
  let (name, c) := l.cursor.skip.takeWhile isWordChar
  if !isGap c.current then none
  let (t, c) ←
    if name = "YAML".toList then do
      let (major, c) ← versionNumber (c.skipWhile isSpaceOrTab)
      if c.current ≠ '.' then none
      let (minor, c) ← versionNumber c.skip
      pure (Token.version major minor, c)
    else if name = "TAG".toList then do
      let c := c.skipWhile isSpaceOrTab
      if c.current ≠ '!' then none
      let (handle, c) := tagHandle c
      if handle ≠ ['!'] ∧ (handle.length = 1 ∨ handle.getLast? ≠ some '!') then none
      if !isSpaceOrTab c.current then none
      let (expansion, c) ← tagText true [] (c.skipWhile isSpaceOrTab)
      if !isGap c.current then none
      pure (Token.tagShorthand (String.ofList handle) expansion, c)
    else none
  let c := (c.skipWhile isSpaceOrTab).skipComment
  if !isBreakOrEnd c.current then none
  return { l with cursor := c.skipBreak }.emit t

/-- A tag, from its exclamation mark on. -/
def tag (l : Lexer) : Option Lexer := do
  let c := l.cursor
  let (handle, suffix, c) ←
    if c.peek 1 == '<' then do
      let (suffix, c) ← tagText true [] (c.skipMany 2)
      if c.current ≠ '>' then none
      pure ("", suffix, c.skip)
    else do
      let (handle, c) := tagHandle c
      if 1 < handle.length ∧ handle.getLast? = some '!' then
        let (suffix, c) ← tagText false [] c
        pure (String.ofList handle, suffix, c)
      else
        let (suffix, c) ← tagText false handle c
        if suffix.isEmpty then pure ("", "!", c) else pure ("!", suffix, c)
  if isGap c.current || (l.inFlow && c.current == ',') then
    return { l with cursor := c }.emit (.tag handle suffix)
  none

/-- The name of an anchor or alias, after its mark. -/
def anchorName (c : Cursor) : Option (String × Cursor) := do
  let (name, c) := c.skip.takeWhile isWordChar
  if name.isEmpty then none
  if isGap c.current || "?:,]\x7d%@\x60".toList.contains c.current then
    return (String.ofList name, c)
  none

/-- Ends every block collection and every possible key, as the marks between
    documents and the directives do. -/
def endBlocks (l : Lexer) : Option Lexer := do
  let l ← (l.unroll none).dropKey
  return { l with keyAllowed := false }

/-- Opens a flow collection; what opens it may be a key itself. -/
def openFlow (l : Lexer) (t : Token) : Option Lexer := do
  let l ← l.saveKey
  return ({ l with outer := l.key :: l.outer, key := none, keyAllowed := true }.advance 1).emit t

/-- Closes a flow collection. -/
def closeFlow (l : Lexer) (t : Token) : Option Lexer := do
  let l ← l.dropKey
  let l := match l.outer with
    | key :: outer => { l with key, outer }
    | [] => l
  return ({ l with keyAllowed := false }.advance 1).emit t

/-- The comma in a flow collection. -/
def flowEntry (l : Lexer) : Option Lexer := do
  let l ← l.dropKey
  return ({ l with keyAllowed := true }.advance 1).emit .flowEntry

/-- The hyphen of a block sequence. Inside a flow collection it is left to the
    grammar to refuse it. -/
def blockEntry (l : Lexer) : Option Lexer := do
  if !l.inFlow && !l.keyAllowed then none
  let l := l.roll l.cursor.column none .blockSequenceStart
  let l ← l.dropKey
  return ({ l with keyAllowed := true }.advance 1).emit .blockEntry

/-- The question mark before a key of any shape. -/
def explicitKey (l : Lexer) : Option Lexer := do
  if !l.inFlow && !l.keyAllowed then none
  let l := l.roll l.cursor.column none .blockMappingStart
  let l ← l.dropKey
  return ({ l with keyAllowed := !l.inFlow }.advance 1).emit .key

/-- The colon before a value. If a key may have begun before it, it did, and
    the tokens for it are put in there. -/
def valueMark (l : Lexer) : Option Lexer :=
  match l.key with
  | some k =>
    let l := (l.emitAt k.place .key).roll k.column (some k.place) .blockMappingStart
    some (({ l with key := none, keyAllowed := false }.advance 1).emit .value)
  | none =>
    if !l.inFlow && !l.keyAllowed then none
    else
      let l := l.roll l.cursor.column none .blockMappingStart
      some (({ l with keyAllowed := !l.inFlow }.advance 1).emit .value)

/-- A scalar in quotes. -/
def quoted (l : Lexer) (single : Bool) : Option Lexer := do
  let l ← l.saveKey
  let (value, c) ← quotedScalar single l.cursor
  let style := if single then Style.singleQuoted else .doubleQuoted
  return { l with cursor := c, keyAllowed := false }.emit (.scalar (String.ofList value) style)

/-- A literal or folded scalar. -/
def blockScalar (l : Lexer) (folding : Bool) : Option Lexer := do
  let l ← l.dropKey
  let (value, c) ← block folding l.bound l.cursor
  let style := if folding then Style.folded else .literal
  return { l with cursor := c, keyAllowed := true }.emit (.scalar (String.ofList value) style)

/-- A scalar without quotes. After one that ended with its line a key may
    begin. -/
def plainScalar (l : Lexer) : Option Lexer := do
  let l ← l.saveKey
  let (value, broken, c) ← plain l.inFlow l.bound l.cursor
  return { l with cursor := c, keyAllowed := broken }.emit (.scalar (String.ofList value) .plain)

/-- Whether a scalar without quotes may begin with the character. -/
def startsPlain (l : Lexer) (first second : Char) : Bool :=
  !(isGap first || "-?:,[]\x7b\x7d#&*!|>'\"%@\x60".toList.contains first)
    || (first == '-' && !isSpaceOrTab second)
    || (!l.inFlow && (first == '?' || first == ':') && !isGap second)

/-- One more token at the cursor, with those that it brings along. -/
def token (l : Lexer) : Option Lexer :=
  let c := l.cursor
  let x := c.current
  let gapAfter := isGap (c.peek 1)
  if c.column == 0 && x == '%' then do (← l.endBlocks).directive
  else if c.atMark '-' then do return ((← l.endBlocks).advance 3).emit .documentStart
  else if c.atMark '.' then do return ((← l.endBlocks).advance 3).emit .documentEnd
  else if x == '[' then l.openFlow .flowSequenceStart
  else if x == '\x7b' then l.openFlow .flowMappingStart
  else if x == ']' then l.closeFlow .flowSequenceEnd
  else if x == '\x7d' then l.closeFlow .flowMappingEnd
  else if x == ',' then l.flowEntry
  else if x == '-' && gapAfter then l.blockEntry
  else if x == '?' && (l.inFlow || gapAfter) then l.explicitKey
  else if x == ':' && (l.inFlow || gapAfter) then l.valueMark
  else if x == '*' || x == '&' then do
    let l ← l.saveKey
    let (name, c) ← anchorName c
    let t := if x == '*' then Token.alias name else .anchor name
    return { l with cursor := c, keyAllowed := false }.emit t
  else if x == '!' then do
    let l ← l.saveKey
    return { (← l.tag) with keyAllowed := false }
  else if x == '|' && !l.inFlow then l.blockScalar false
  else if x == '>' && !l.inFlow then l.blockScalar true
  else if x == '\'' then l.quoted true
  else if x == '"' then l.quoted false
  else if l.startsPlain x (c.peek 1) then l.plainScalar
  else none

/-- Moves to the next token and takes it. At the end of the text the open
    collections are closed and the answer is final. -/
def step (l : Lexer) : Option (Bool × Lexer) := do
  let l := l.toNextToken (l.cursor.rest.length + 1)
  let l ← l.dropStaleKeys
  let l := l.unroll (some l.cursor.column)
  if isEnd l.cursor.current then
    let l ← (l.unroll none).dropKey
    return (true, l)
  return (false, ← l.token)

/-- All further tokens. -/
def run (l : Lexer) : Nat → Option Lexer
  | 0 => none
  | fuel + 1 => do
    match ← l.step with
    | (true, l) => return l
    | (false, l) => l.run fuel

end Lexer

/-- The characters that a YAML text may hold. -/
def isYamlChar (c : Char) : Bool :=
  let n := c.toNat
  n == 0x9 || n == 0xA || n == 0xD || (0x20 ≤ n && n ≤ 0x7E) || n == 0x85
    || (0xA0 ≤ n && n ≤ 0xD7FF) || (0xE000 ≤ n && n ≤ 0xFFFD) || 0x10000 ≤ n

/-- All tokens of a text, or nothing when it is no YAML. Every token takes at
    least one character, so their count never passes that of the characters. -/
def tokens? (text : String) : Option (List Token) :=
  let cs := text.toList
  if cs.all isYamlChar then
    (Lexer.run { cursor := .start cs } (cs.length + 1)).map (·.tokens.toList)
  else none

end Yaml

end StoragePolicy
