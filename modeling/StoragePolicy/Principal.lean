import StoragePolicy.Address
import StoragePolicy.Text.Parts

/-!
# Principals

Who a policy is attached for: an account, named by its address, or a group,
named by its number. On chain both are a kind and a value in one text column.

A group's number is read as decimal digits with any leading zeros and at most
one plus sign, and has to fit sixty-four bits. Text that does not begin with
the group marker is taken for an address, with the address's own fault.

## Main definitions

* `Principal`: An account or a group.
* `Principal.code`, `Principal.value`: The kind and value on chain.
* `Principal.text`, `Principal.parse`: The written form and its reading.
* `groupId?`: The reading of a group's number.
-/

namespace StoragePolicy

/-- Who a policy is attached for. -/
inductive Principal where
  | account (address : Address)
  | group (id : UInt64)
  deriving DecidableEq

/-- The number that decimal digits stand for, if there are any and it fits
    sixty-four bits. -/
def decimalId? (digits : List Char) : Option UInt64 :=
  if digits.isEmpty || !digits.all Char.isDigit then none
  else
    let n := Nat.ofDigitChars 10 digits 0
    if n < UInt64.size then some (UInt64.ofNat n) else none

/-- The number of a group as written: digits behind at most one plus sign. -/
def groupId? : List Char → Option UInt64
  | '+' :: digits => decimalId? digits
  | digits => decimalId? digits

namespace Principal

/-- What a group's written form begins with. -/
def groupMarker : List Char := ['g', 'r', 'o', 'u', 'p', ':']

/-- The kind on chain. -/
def code : Principal → Int32
  | .account _ => 1
  | .group _ => 2

/-- The value on chain, beside the kind. -/
def value : Principal → String
  | .account address => address.text
  | .group id => String.ofList (Nat.toDigits 10 id.toNat)

/-- The written form. -/
def text : Principal → String
  | .account address => address.text
  | .group id => String.ofList (groupMarker ++ Nat.toDigits 10 id.toNat)

/-- Reads a written principal. -/
def parse (s : String) : Except Fault Principal :=
  match Text.after? groupMarker s.toList with
  | some digits =>
    match groupId? digits with
    | some id => .ok (.group id)
    | none => .error (.badGroupId (String.ofList digits))
  | none => (Address.parse s).map .account

end Principal

end StoragePolicy
