import StoragePolicy.Fault
import StoragePolicy.Text.Hex

/-!
# Account Addresses

An account is twenty octets, written as forty hexadecimal digits behind a
marker. Either case is read, of the marker's letter as of the digits, and lower
case is written, so two spellings of one account become one text.

A refusal looks at the marker first, then at the length, and only then at the
digits. Length and places are counted in octets of the UTF-8 form, which a
character outside ASCII shifts.

## Main definitions

* `Address`: An account's twenty octets.
* `Address.text`: The written form.
* `Address.parse`: Its reading.
-/

namespace StoragePolicy

open Text

/-- The twenty octets of an account. -/
structure Address where
  octets : Octets
  size_eq : octets.length = 20
  deriving DecidableEq

namespace Address

/-- The characters of the written form. -/
def chars (a : Address) : List Char := '0' :: 'x' :: hexText a.octets

/-- The written form. -/
def text (a : Address) : String := String.ofList a.chars

/-- What follows the marker, of which the letter may have either case. -/
def body? : List Char → Option (List Char)
  | '0' :: 'x' :: rest => some rest
  | '0' :: 'X' :: rest => some rest
  | _ => none

/-- Reads a written address. -/
def read (s : List Char) : Except AddressFault Address :=
  match body? s with
  | none => .error .noMarker
  | some body =>
    let digits := utf8Chars body
    if digits.length ≠ 40 then .error .wrongLength
    else match fromHex 0 digits with
      | .error (octet, place) => .error (.badDigit octet place)
      | .ok octets =>
        if h : octets.length = 20 then .ok ⟨octets, h⟩ else .error .wrongLength

/-- Reads a written address; the fault keeps the text. -/
def parse (s : String) : Except Fault Address := (read s.toList).mapError (.badAddress s)

end Address

end StoragePolicy
