import StoragePolicy.Text.Octets

/-!
# Hexadecimal Text

Octets as pairs of hexadecimal digits, and numbers as a fixed count of them.
Writing always uses lower case; reading takes either case, so reading undoes
writing but not the other way round. A reader that refuses says which octet it
refused and where, counting from the start of its own text.

## Main definitions

* `hexValue?`: The value of one digit, in either case.
* `hexText`: Octets written as digit pairs.
* `fromHex`: Digit pairs read back, or the first octet that is no digit.
* `fixedHex`: A number written with a fixed count of digits.
-/

namespace StoragePolicy

namespace Text

/-- The value of an octet read as one hexadecimal digit of either case. -/
def hexValue? (b : UInt8) : Option Nat :=
  let n := b.toNat
  if 0x30 ≤ n ∧ n ≤ 0x39 then some (n - 0x30)
  else if 0x41 ≤ n ∧ n ≤ 0x46 then some (n - 0x41 + 10)
  else if 0x61 ≤ n ∧ n ≤ 0x66 then some (n - 0x61 + 10)
  else none

/-- The two lower-case digits of an octet. -/
def hexPair (b : UInt8) : List Char :=
  [Nat.digitChar (b.toNat / 16), Nat.digitChar (b.toNat % 16)]

/-- Octets written as lower-case digit pairs. -/
def hexText (octets : Octets) : List Char := octets.flatMap hexPair

/-- Reads digit pairs from left to right. A refusal names the first octet that
    is no digit and its place, counted from `position`. A last digit without a
    partner is dropped; callers check the length first. -/
def fromHex (position : Nat) : Octets → Except (UInt8 × Nat) Octets
  | high :: low :: rest =>
    match hexValue? high, hexValue? low with
    | none, _ => .error (high, position)
    | some _, none => .error (low, position + 1)
    | some h, some l => (fromHex (position + 2) rest).map (UInt8.ofNat (16 * h + l) :: ·)
  | _ => .ok []

/-- The lowest `width` hexadecimal digits of a number, leading zeros kept. -/
def fixedHex : Nat → Nat → List Char
  | 0, _ => []
  | width + 1, n => fixedHex width (n / 16) ++ [Nat.digitChar (n % 16)]

end Text

end StoragePolicy
