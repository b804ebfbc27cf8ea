import StoragePolicy.Text.Glyphless

/-!
# Quoted Text in Messages

How a message shows text that came from outside: between quotes, with enough
escaped that the reader sees every character and cannot mistake where the text
ends. Tab, line ends, the null character, the backslash and the quote in use
get a backslash; a character without a glyph is written as its code point in
braces; everything else stands as it is.

The quote that is not in use stays bare, so text in double quotes keeps its
apostrophes and a character in single quotes keeps its double quote.

## Main definitions

* `quotedText`: A text in double quotes.
* `quotedChar`: One character in single quotes.
-/

namespace StoragePolicy

namespace Text

/-- One character as it stands between quotes of the given kind. -/
def escaped (quote c : Char) : List Char :=
  if c = '\x00' then ['\\', '0']
  else if c = '\t' then ['\\', 't']
  else if c = '\r' then ['\\', 'r']
  else if c = '\n' then ['\\', 'n']
  else if c = quote ∨ c = '\\' then ['\\', c]
  else if isGlyphless c then ['\\', 'u', '\x7b'] ++ Nat.toDigits 16 c.toNat ++ ['\x7d']
  else [c]

/-- A text in double quotes. -/
def quotedText (s : String) : String :=
  String.ofList ('"' :: s.toList.flatMap (escaped '"') ++ ['"'])

/-- One character in single quotes. -/
def quotedChar (c : Char) : String :=
  String.ofList ('\'' :: escaped '\'' c ++ ['\''])

end Text

end StoragePolicy
