import StoragePolicy.Signature.Curve
import StoragePolicy.Signature.Sha512

/-!
# Ed25519 Signatures

The hash of a secret seed gives a scalar and a prefix; the prefix and the
message give a number that is used once, and the signature is that number's
point with the answer to the challenge which the point, the public key and the
message make up together. Nothing is drawn at random, so a key signs a message
in one way only.

## Main definitions

* `Key`: A secret scalar with its companions.
* `Key.ofSeed`: The key of a seed.
* `Key.sign`: The sixty-four octets of a signature.

## Theorems

* `Key.sign_length`: A signature is never shorter or longer.
-/

namespace StoragePolicy

namespace Signature

open Text

/-- A secret scalar, the secret octets that make its one-time numbers, and the
    public octets of its point. -/
structure Key where
  scalar : Nat
  secret : Octets
  verifying : Octets

namespace Key

/-- A scalar with the bits that the scheme fixes: a multiple of eight whose
    highest bit is the one before the last. -/
def clamp (n : Nat) : Nat := n % Nat.pow 2 254 / 8 * 8 + Nat.pow 2 254

/-- The key of a seed. -/
def ofSeed (seed : Octets) : Key :=
  let hash := sha512 seed
  let scalar := clamp (ofLittleEndian (hash.take 32))
  { scalar, secret := hash.drop 32, verifying := (Point.base.multiple scalar 255).octets }

/-- The signature of a message. -/
def sign (key : Key) (message : Octets) : Octets :=
  let once := ofLittleEndian (sha512 (key.secret ++ message)) % order
  let point := (Point.base.multiple once 253).octets
  let challenge := ofLittleEndian (sha512 (point ++ key.verifying ++ message)) % order
  point ++ littleEndian ((once + challenge * key.scalar) % order) 32

theorem sign_length (key : Key) (message : Octets) : (key.sign message).length = 64 := by
  simp [sign]

end Key

end Signature

end StoragePolicy
