import StoragePolicy.Text.Octets

/-!
# The Curve of Ed25519

The twisted Edwards curve `-x² + y² = 1 + d x² y²` over the integers modulo
`2²⁵⁵ - 19`, with points kept in extended coordinates: a point is `(X/Z, Y/Z)`
and `T` holds `XY/Z`, so adding needs no division and one formula serves every
pair of points, equal or not.

Coordinates are natural numbers below the prime. A difference is taken by
adding the prime first, because natural subtraction stops at zero.

## Main definitions

* `prime`, `order`: The field's size and that of the group the base generates.
* `Point`: A point in extended coordinates.
* `Point.add`, `Point.multiple`: The group.
* `Point.octets`: The thirty-two octets of a point.
-/

namespace StoragePolicy

namespace Signature

open Text

/-- The size of the field. -/
def prime : Nat := Nat.pow 2 255 - 19

/-- The size of the group that the base point generates. -/
def order : Nat := Nat.pow 2 252 + 27742317777372353535851937790883648493

/-- The constant `-121665 / 121666` of the curve's equation. -/
def curveConstant : Nat :=
  37095705934669439343138083508754565189542113879843219016388785533085940283555

/-- A difference in the field. -/
def difference (x y : Nat) : Nat := (x + prime - y) % prime

/-- A power in the field, by squaring for each of the lowest `bits` bits of
    the exponent. -/
def power (x exponent : Nat) : Nat → Nat
  | 0 => 1
  | bits + 1 =>
    let root := power x (exponent / 2) bits
    let square := root * root % prime
    if exponent % 2 = 1 then square * x % prime else square

/-- The inverse of a field element other than zero, by Fermat's theorem. -/
def inverse (x : Nat) : Nat := power x (prime - 2) 255

/-- A point `(x / z, y / z)` with `t = x y / z`. -/
structure Point where
  x : Nat
  y : Nat
  z : Nat
  t : Nat

namespace Point

/-- The neutral element. -/
def zero : Point := ⟨0, 1, 1, 0⟩

/-- The base point: `y` is `4 / 5` and `x` the even root. -/
def base : Point :=
  let x := 15112221349535400772501151409588531511454012693041857206046113283949847762202
  let y := 46316835694926478169428394003475163141307993866256225615783033603165251855960
  ⟨x, y, 1, x * y % prime⟩

/-- The sum of two points. -/
def add (p q : Point) : Point :=
  let a := difference p.y p.x * difference q.y q.x % prime
  let b := (p.y + p.x) * (q.y + q.x) % prime
  let c := 2 * curveConstant * p.t % prime * q.t % prime
  let d := 2 * p.z * q.z % prime
  let e := difference b a
  let f := difference d c
  let g := (d + c) % prime
  let h := (b + a) % prime
  ⟨e * f % prime, g * h % prime, f * g % prime, e * h % prime⟩

/-- A point added up as often as the lowest `bits` bits of a number say. -/
def multiple (p : Point) (n : Nat) : Nat → Point
  | 0 => zero
  | bits + 1 =>
    let half := multiple p (n / 2) bits
    let double := half.add half
    if n % 2 = 1 then double.add p else double

end Point

/-- The lowest `size` octets of a number, the lowest first. -/
def littleEndian (n : Nat) : Nat → Octets
  | 0 => []
  | size + 1 => UInt8.ofNat n :: littleEndian (n / 256) size

/-- The number whose octets come with the lowest first. -/
def ofLittleEndian (octets : Octets) : Nat :=
  octets.foldr (fun b n => b.toNat + 256 * n) 0

/-- The octets of a point: `y`, with the parity of `x` in the highest bit. -/
def Point.octets (p : Point) : Octets :=
  let inv := inverse p.z
  let x := p.x * inv % prime
  let y := p.y * inv % prime
  littleEndian (y + x % 2 * Nat.pow 2 255) 32

@[simp] theorem littleEndian_length (n size : Nat) : (littleEndian n size).length = size := by
  induction size generalizing n with
  | zero => rfl
  | succ size ih => simp [littleEndian, ih]

@[simp] theorem Point.octets_length (p : Point) : p.octets.length = 32 := by
  simp [Point.octets]

end Signature

end StoragePolicy
