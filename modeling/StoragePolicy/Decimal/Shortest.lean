/-!
# Shortest Decimals

The fewest significant digits that still name one binary floating-point
number. A double stands for the whole interval of reals that round to it, so
any decimal inside that interval reads back as the same double; of the shortest
such decimals the one nearest the true value is written.

The work is done on exact natural numbers. A double is `m · 2^q`; its interval
reaches half way to each neighbour, ends included when `m` is even. For each
count of digits only two decimals can be nearest, the ones just below and just
above the value, so those two are tried and the first count with a hit wins.

How the digits are then laid out is a separate decision. Exponents from
`-5` to `15` are written positionally and always with a point, so that a
whole number cannot be mistaken for an integer; all others carry an exponent,
always with its sign and never with a leading zero.

## Main definitions

* `Binary`: A positive double as significand and power of two.
* `Binary.shortest`: Its shortest digits and decimal exponent.
* `shortestText`: The text of a finite double given by its bits.
-/

namespace StoragePolicy

namespace Decimal

/-- A positive double, `significand · 2 ^ exponent`. -/
structure Binary where
  significand : Nat
  exponent : Int

namespace Binary

/-- A fraction `numerator / denominator` of natural numbers. -/
structure Fraction where
  numerator : Nat
  denominator : Nat

/-- The fraction `n · 2 ^ q`. -/
def fraction (n : Nat) (q : Int) : Fraction :=
  if 0 ≤ q then ⟨n * Nat.pow 2 q.toNat, 1⟩ else ⟨n, Nat.pow 2 (-q).toNat⟩

/-- A fraction multiplied by a power of ten. -/
def Fraction.scale (f : Fraction) (k : Int) : Fraction :=
  if 0 ≤ k then ⟨f.numerator * Nat.pow 10 k.toNat, f.denominator⟩
  else ⟨f.numerator, f.denominator * Nat.pow 10 (-k).toNat⟩

/-- Whether the natural number `n` is below, or with `orEqual` at, a fraction. -/
def Fraction.exceeds (f : Fraction) (orEqual : Bool) (n : Nat) : Bool :=
  if orEqual then n * f.denominator ≤ f.numerator else n * f.denominator < f.numerator

/-- Whether the natural number `n` is above, or with `orEqual` at, a fraction. -/
def Fraction.isExceeded (f : Fraction) (orEqual : Bool) (n : Nat) : Bool :=
  if orEqual then f.numerator ≤ n * f.denominator else f.numerator < n * f.denominator

/-- The exponent of the first significant digit: the largest `e` with `10 ^ e`
    at most the value. Doubles reach from `5e-324` to below `1e309`. -/
def leadingExponent (b : Binary) : Int :=
  let value := fraction b.significand b.exponent
  let found := (List.range 634).find? fun (i : Nat) =>
    (value.scale ((i : Int) - 309)).exceeds true 1
  309 - ((found.getD 633 : Nat) : Int)

/-- The half-way points to the neighbours below and above. The neighbour below
    is twice as near where the significand is the least of its binade. -/
def halfway (b : Binary) : Fraction × Fraction :=
  let q := b.exponent - 2
  let below := if b.significand = Nat.pow 2 52 ∧ b.exponent ≠ -1074 then 1 else 2
  (fraction (4 * b.significand - below) q, fraction (4 * b.significand + 2) q)

/-- The decimal with `count` digits nearest the value, as an integer on the
    grid of `10 ^ -k`, if one of the two candidates lies in the interval. An
    exact tie goes to the even digit. -/
def candidate? (b : Binary) (k : Int) : Option Nat :=
  let value := (fraction b.significand b.exponent).scale k
  let (low, high) := b.halfway
  let closed := b.significand % 2 = 0
  let inside (n : Nat) : Bool :=
    (low.scale k).isExceeded closed n && (high.scale k).exceeds closed n
  let down := value.numerator / value.denominator
  let up := down + 1
  let gap := 2 * (value.numerator % value.denominator)
  match inside down, inside up with
  | true, true =>
    if gap < value.denominator ∨ (gap = value.denominator ∧ down % 2 = 0) then some down
    else some up
  | true, false => some down
  | false, true => some up
  | false, false => none

/-- The shortest digits, with the exponent of the last of them. Seventeen
    digits always suffice for a double. -/
def shortest (b : Binary) : Nat × Int :=
  let e := b.leadingExponent
  let hit := (List.range 17).findSome? fun (i : Nat) =>
    let k : Int := (i : Int) - e
    (b.candidate? k).map fun n => (n, -k)
  hit.getD (b.significand, b.exponent)

end Binary

/-- The positive double with the given bits, the sign left aside. -/
def ofBits (bits : UInt64) : Binary :=
  let n : Nat := bits.toNat % Nat.pow 2 63
  let raised : Nat := n / Nat.pow 2 52
  let trailing := n % Nat.pow 2 52
  if raised = 0 then ⟨trailing, -1074⟩ else ⟨trailing + Nat.pow 2 52, (raised : Int) - 1075⟩

/-- The digits without trailing zeros, and the exponent that makes up for
    them. -/
def stripped (digits : List Char) (exponent : Int) : List Char × Int :=
  let kept := (digits.reverse.dropWhile (· == '0')).reverse
  (kept, exponent + (digits.length - kept.length : Nat))

/-- An exponent after its mark: sign, then digits. -/
def exponentText (e : Int) : List Char :=
  (if e < 0 then '-' else '+') :: Nat.toDigits 10 e.natAbs

/-- Lays out digits whose last one counts `10 ^ exponent`. -/
def layout (digits : List Char) (exponent : Int) : List Char :=
  let leading : Int := exponent + digits.length - 1
  if -5 ≤ leading ∧ leading ≤ 15 then
    if 0 ≤ exponent then digits ++ List.replicate exponent.toNat '0' ++ ['.', '0']
    else if 0 ≤ leading then
      digits.take (leading + 1).toNat ++ '.' :: digits.drop (leading + 1).toNat
    else ['0', '.'] ++ List.replicate (-leading - 1).toNat '0' ++ digits
  else
    let mark := 'e' :: exponentText leading
    match digits with
    | first :: second :: rest => first :: '.' :: second :: rest ++ mark
    | short => short ++ mark

/-- The text of the finite double with the given bits: the fewest digits that
    read back, always recognisable as no integer. -/
def shortestText (bits : UInt64) : String :=
  let b := ofBits bits
  let sign := if Nat.pow 2 63 ≤ bits.toNat then ['-'] else []
  if b.significand = 0 then String.ofList (sign ++ ['0', '.', '0'])
  else
    let (n, exponent) := b.shortest
    let (digits, exponent) := stripped (Nat.toDigits 10 n) exponent
    String.ofList (sign ++ layout digits exponent)

end Decimal

end StoragePolicy
