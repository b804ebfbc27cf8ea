import StoragePolicy.Text.Octets

/-!
# Writing Documents

The canonical spelling of a document: no white space, members in the order of
their record, and inside strings only what has to be escaped. A quote and a
backslash get a backslash, the five control characters with a letter of their
own use it, every other control character is written as four hexadecimal
digits, and all other characters stand as their UTF-8 octets.

## Main definitions

* `escaped`: One character as it stands inside a string.
* `quoted`: A text as a string.
* `list`: Written items between square brackets.
* `object`: Written members between braces.
-/

namespace StoragePolicy

namespace Json

open Text

/-- The letter that stands for a character after a backslash, if it has one. -/
def shortForm? (c : Char) : Option Char :=
  if c = '"' then some '"'
  else if c = '\\' then some '\\'
  else if c = '\x08' then some 'b'
  else if c = '\x0c' then some 'f'
  else if c = '\n' then some 'n'
  else if c = '\r' then some 'r'
  else if c = '\t' then some 't'
  else none

/-- One character as it stands inside a string. -/
def escaped (c : Char) : List Char :=
  match shortForm? c with
  | some letter => ['\\', letter]
  | none =>
    if c.toNat < 0x20 then
      ['\\', 'u', '0', '0', Nat.digitChar (c.toNat / 16), Nat.digitChar (c.toNat % 16)]
    else [c]

/-- The characters of a text written as a string. -/
def quotedChars (cs : List Char) : List Char := '"' :: cs.flatMap escaped ++ ['"']

/-- A text written as a string. -/
def quoted (s : String) : Octets := utf8Chars (quotedChars s.toList)

/-- A whole number in decimal. -/
def number (n : Int) : Octets :=
  utf8Chars (match n with
    | .ofNat n => Nat.toDigits 10 n
    | .negSucc n => '-' :: Nat.toDigits 10 (n + 1))

/-- Written items with commas between them. -/
def separated : List Octets → Octets
  | [] => []
  | [item] => item
  | item :: rest => item ++ 0x2C :: separated rest

/-- Written items between square brackets. -/
def list (items : List Octets) : Octets := 0x5B :: separated items ++ [0x5D]

/-- A member: its name and its written value. -/
def member (name : String) (value : Octets) : Octets := quoted name ++ 0x3A :: value

/-- Written members between braces. -/
def object (members : List Octets) : Octets := 0x7B :: separated members ++ [0x7D]

end Json

end StoragePolicy
