import CertChain.Curve.Edwards
import CertChain.Digest.Keccak
import CertChain.Digest.Sha2

/-!
# Signatures on Edwards curves

A signature is a point `r` and a number `s` below the order, both in the width of a
point. With `h` the digest of `r`, the public key and the message, as a number, `s`
times the base point must be `r` plus `h` times the key.

The two curves are checked in two ways. On the first one, `s` times the base less `h`
times the key is written out and compared with the octets of `r`, so that `r` is never
decoded. On the second one `r` is decoded, and points that differ by a point of small
order count as the same.
-/

namespace CertChain
namespace Eddsa

/-- Point octets and number of a signature, if the number is below the order. -/
def split? (curve : Edwards) (signature : Bytes) : Option (Bytes × Nat) :=
  let s := Bytes.toNatLE (signature.drop curve.width)
  if signature.length = 2 * curve.width ∧ s < curve.order then
    some (signature.take curve.width, s)
  else none

/-- `s` times the base less `h` times the key. -/
def difference (curve : Edwards) (s h : Nat) (key : Edwards.Point) : Edwards.Point :=
  curve.add (curve.multiply s curve.base) (curve.multiply h (curve.negate key))

/-! ### Ed25519 -/

/-- The key that octets spell. The second coordinate is taken modulo the prime. -/
def key25519? (octets : Bytes) : Option Edwards.Point :=
  let curve := Edwards.curve25519
  let (y, parity) := curve.parts octets
  curve.lift? (y % curve.prime) parity

/-- Checks an Ed25519 signature. -/
def verify25519 (key message signature : Bytes) : Bool :=
  let curve := Edwards.curve25519
  match split? curve signature, key25519? key with
  | some (r, s), some point =>
    let h := Bytes.toNatLE (Digest.Sha2.digest512 (r ++ key ++ message)) % curve.order
    curve.encode (difference curve s h point) == r
  | _, _ => false

/-! ### Ed448 -/

/-- The point that octets spell: its second coordinate is below the prime, and its
first one is not zero. -/
def point448? (octets : Bytes) : Option Edwards.Point :=
  let curve := Edwards.curve448
  let (y, parity) := curve.parts octets
  if y < curve.prime then
    match curve.lift? y parity with
    | some point => if point.x = 0 then none else some point
    | none => none
  else none

/-- What every digest under an Ed448 signature begins with: the name of the scheme,
and that there is neither a digest of the message nor a context. -/
def opening448 : Bytes :=
  Bytes.ofText "SigEd448" ++ [0, 0]

/-- Checks an Ed448 signature. -/
def verify448 (key message signature : Bytes) : Bool :=
  let curve := Edwards.curve448
  match split? curve signature, point448? key with
  | some (r, s), some point =>
    match point448? r with
    | none => false
    | some target =>
      let h := Bytes.toNatLE (Digest.Keccak.shake256 (2 * curve.width)
        (opening448 ++ r ++ key ++ message)) % curve.order
      curve.same (curve.multiply 4 (difference curve s h point)) (curve.multiply 4 target)
  | _, _ => false

end Eddsa
end CertChain
