import StoragePolicy.Decimal.Shortest
import StoragePolicy.Text.Quoted

/-!
# Why a Document Cannot Be Read

A document is read in one pass and the first thing wrong with it is the only
thing reported. Each constructor is one cause; the wording is kept apart, in
one function, so that a theorem can speak of the cause and a message can still
be compared letter by letter.

A reader knows what shape it wants before it looks, so a value of another kind
is reported as what was found against what was wanted. Literals, numbers and
strings are read to their end before that is said, because the report shows
them; lists and objects are not entered.

## Main definitions

* `Shape`: The layout of a record, which may be written as an object or a list.
* `Wanted`: What a reader was looking for.
* `Found`: What stood there instead.
* `Fault`: The causes.
* `Fault.message`: Their wording.
-/

namespace StoragePolicy

namespace Json

/-- The layout of a record: its name in messages and its fields in order. -/
structure Shape where
  name : String
  fields : List String
  deriving DecidableEq

/-- What a reader was looking for. -/
inductive Wanted where
  | string
  | list
  | record (shape : Shape)
  deriving DecidableEq

/-- What stood where something else was wanted. Floating-point numbers are kept
    as their bits. -/
inductive Found where
  | null
  | boolean (value : Bool)
  | integer (value : Int)
  | float (bits : UInt64)
  | string (value : String)
  | list
  | object
  deriving DecidableEq

/-- Why a document cannot be read. -/
inductive Fault where
  | endInValue
  | endInList
  | endInObject
  | endInString
  | noValue
  | badLiteral
  | badNumber
  | numberOutOfRange
  | noListEnd
  | noObjectEnd
  | noColon
  | keyNotString
  | trailingComma
  | trailingCharacters
  | controlCharacter
  | badEscape
  | loneSurrogate
  | unfinishedSurrogate
  | badCodePoint
  | wrongType (found : Found) (wanted : Wanted)
  | tooShort (length : Nat) (shape : Shape)
  | unknownField (name : String) (shape : Shape)
  | duplicateField (name : String)
  | missingField (name : String)
  deriving DecidableEq

/-- The wording for what was looked for. -/
def Wanted.text : Wanted → String
  | .string => "a string"
  | .list => "a sequence"
  | .record shape => "struct " ++ shape.name

/-- The wording for what was found. -/
def Found.text : Found → String
  | .null => "null"
  | .boolean true => "boolean `true`"
  | .boolean false => "boolean `false`"
  | .integer value => "integer `" ++ toString value ++ "`"
  | .float bits => "floating point `" ++ Decimal.shortestText bits ++ "`"
  | .string value => "string " ++ Text.quotedText value
  | .list => "sequence"
  | .object => "map"

/-- The fields of a shape as alternatives. -/
def Shape.alternatives (shape : Shape) : String :=
  " or ".intercalate (shape.fields.map fun field => "`" ++ field ++ "`")

/-- The number of values that a shape written as a list has to hold. -/
def Shape.demand (shape : Shape) : String :=
  let count := shape.fields.length
  "struct " ++ shape.name ++ " with " ++ toString count
    ++ (if count = 1 then " element" else " elements")

/-- The wording of a fault. -/
def Fault.message : Fault → String
  | .endInValue => "EOF while parsing a value"
  | .endInList => "EOF while parsing a list"
  | .endInObject => "EOF while parsing an object"
  | .endInString => "EOF while parsing a string"
  | .noValue => "expected value"
  | .badLiteral => "expected ident"
  | .badNumber => "invalid number"
  | .numberOutOfRange => "number out of range"
  | .noListEnd => "expected `,` or `]`"
  | .noObjectEnd => "expected `,` or `\x7d`"
  | .noColon => "expected `:`"
  | .keyNotString => "key must be a string"
  | .trailingComma => "trailing comma"
  | .trailingCharacters => "trailing characters"
  | .controlCharacter => "control character (\\u0000-\\u001F) found while parsing a string"
  | .badEscape => "invalid escape"
  | .loneSurrogate => "lone leading surrogate in hex escape"
  | .unfinishedSurrogate => "unexpected end of hex escape"
  | .badCodePoint => "invalid unicode code point"
  | .wrongType found wanted => "invalid type: " ++ found.text ++ ", expected " ++ wanted.text
  | .tooShort length shape =>
    "invalid length " ++ toString length ++ ", expected " ++ shape.demand
  | .unknownField name shape =>
    "unknown field `" ++ name ++ "`, expected " ++ shape.alternatives
  | .duplicateField name => "duplicate field `" ++ name ++ "`"
  | .missingField name => "missing field `" ++ name ++ "`"

end Json

end StoragePolicy
