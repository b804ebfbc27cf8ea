import StoragePolicy.Json.Fault
import StoragePolicy.Text.Octets

/-!
# Numbers Where None Is Wanted

No document of this library holds a number, so numbers are read only to be
refused, and only far enough to say what was found. A number without fraction
and exponent is an integer as long as it fits sixty-four bits, unsigned when
positive and signed when negative; `-0` and everything wider is a floating-point
number.

A floating-point number is taken as a significand of at most sixty-four bits
times a power of ten. Digits that no longer fit the significand only move the
exponent, or are dropped behind the point. The power is then applied by one
multiplication or division of doubles, more only where the exponent is far
below the table of exact powers, so the result can differ from the nearest
double in its last place.

## Main definitions

* `scaled`: A significand and a power of ten as a double.
* `exponentPart`, `fractionPart`, `longInteger`: The parts of a number.
* `number`: A number, from its first character on.
-/

namespace StoragePolicy

namespace Json

open Text

/-- Whether an octet is a decimal digit. -/
def isDigit (b : UInt8) : Bool := 0x30 ≤ b && b ≤ 0x39

/-- The value of a decimal digit. -/
def digitValue (b : UInt8) : Nat := b.toNat - 0x30

/-- The double nearest a power of ten. -/
def powerOfTen (k : Nat) : Float := Float.ofScientific 1 false k

/-- A floating-point number with its sign. -/
def signed (negative : Bool) (f : Float) : Found :=
  .float (if negative then -f else f).toBits

/-- A double times a power of ten, refused when it leaves the range. -/
def scaled (negative : Bool) (f : Float) (exponent : Int) : Except Fault Found :=
  if exponent < -308 then
    if f == 0 then .ok (signed negative f)
    else scaled negative (f / powerOfTen 308) (exponent + 308)
  else if exponent < 0 then .ok (signed negative (f / powerOfTen (-exponent).toNat))
  else if exponent ≤ 308 then
    let g := f * powerOfTen exponent.toNat
    if g.isInf then .error .numberOutOfRange else .ok (signed negative g)
  else if f == 0 then .ok (signed negative f)
  else .error .numberOutOfRange
termination_by (-exponent).toNat
decreasing_by omega

/-- The significand as a double. -/
def significandFloat (significand : Nat) : Float := significand.toUInt64.toFloat

/-- The digits of an exponent, unless they leave thirty-one bits. -/
def exponentDigits? (value : Nat) : Octets → Option Nat
  | [] => some value
  | b :: rest =>
    if isDigit b then
      let value := value * 10 + digitValue b
      if value < Nat.pow 2 31 then exponentDigits? value rest else none
    else some value

/-- What follows the exponent mark. `start` is the exponent that the digits
    before it already have. -/
def exponentPart (negative : Bool) (significand : Nat) (start : Int) (s : Octets) :
    Except Fault Found :=
  let (raising, s) := match s with
    | b :: rest => if b = 0x2B then (true, rest) else if b = 0x2D then (false, rest) else (true, s)
    | [] => (true, s)
  match s with
  | [] => .error .endInValue
  | b :: rest =>
    if isDigit b then
      match exponentDigits? (digitValue b) rest with
      | some e =>
        scaled negative (significandFloat significand) (if raising then start + e else start - e)
      | none =>
        if significand ≠ 0 ∧ raising then .error .numberOutOfRange
        else .ok (signed negative 0)
    else .error .badNumber

/-- The end of a floating-point number after its digits: an exponent, or
    nothing more. -/
def afterDigits (negative : Bool) (significand : Nat) (exponent : Int) : Octets →
    Except Fault Found
  | [] => scaled negative (significandFloat significand) exponent
  | b :: rest =>
    if b = 0x65 ∨ b = 0x45 then exponentPart negative significand exponent rest
    else scaled negative (significandFloat significand) exponent

/-- Whether a significand still has room. -/
def fits (significand : Nat) : Bool := significand < UInt64.size

/-- What follows the point; at least one digit has to. -/
def fractionPart (negative : Bool) (significand : Nat) (exponent : Int) (first : Bool) :
    Octets → Except Fault Found
  | [] =>
    if first then .error .endInValue else afterDigits negative significand exponent []
  | b :: rest =>
    if isDigit b then
      let wider := significand * 10 + digitValue b
      if fits wider then fractionPart negative wider (exponent - 1) false rest
      else afterDigits negative significand exponent (rest.dropWhile isDigit)
    else if first then .error .badNumber
    else afterDigits negative significand exponent (b :: rest)

/-- The digits of a whole part that no longer fit the significand. -/
def longInteger (negative : Bool) (significand : Nat) (exponent : Int) : Octets →
    Except Fault Found
  | [] => afterDigits negative significand exponent []
  | b :: rest =>
    if isDigit b then longInteger negative significand (exponent + 1) rest
    else if b = 0x2E then fractionPart negative significand exponent true rest
    else afterDigits negative significand exponent (b :: rest)

/-- A number without fraction and exponent. -/
def whole (negative : Bool) (significand : Nat) : Found :=
  if !negative then .integer significand
  else if significand = 0 ∨ Nat.pow 2 63 < significand then
    signed true (significandFloat significand)
  else .integer (-significand)

/-- What follows the whole part. -/
def afterWhole (negative : Bool) (significand : Nat) : Octets → Except Fault Found
  | [] => .ok (whole negative significand)
  | b :: rest =>
    if b = 0x2E then fractionPart negative significand 0 true rest
    else if b = 0x65 ∨ b = 0x45 then exponentPart negative significand 0 rest
    else .ok (whole negative significand)

/-- The whole part, after its first digit. -/
def wholePart (negative : Bool) (significand : Nat) : Octets → Except Fault Found
  | [] => afterWhole negative significand []
  | b :: rest =>
    if isDigit b then
      let wider := significand * 10 + digitValue b
      if fits wider then wholePart negative wider rest
      else longInteger negative significand 1 rest
    else afterWhole negative significand (b :: rest)

/-- A number after its sign. A leading zero stands alone. -/
def unsigned (negative : Bool) : Octets → Except Fault Found
  | [] => .error .endInValue
  | b :: rest =>
    if b = 0x30 then
      if rest.head?.any isDigit then .error .badNumber else afterWhole negative 0 rest
    else if isDigit b then wholePart negative (digitValue b) rest
    else .error .badNumber

end Json

end StoragePolicy
