import CertChain.Digest.HashFunction
import CertChain.PublicKey

/-!
# Signatures of two numbers

DSA and ECDSA signatures are a pair of numbers `r` and `s`. The digest of the message
and `r`, both divided by `s`, give the exponents of the base and of the public key;
their product (or the first coordinate of their sum, on a curve) must come out as `r`
again. The pair is written in DER, and strictly so.
-/

namespace CertChain

/-- A signature of two numbers. -/
structure NumberPair where
  r : Nat
  s : Nat
  deriving DecidableEq, Repr

namespace NumberPair

/-- The pair that octets hold, if both numbers are at least 1 and below `order`. -/
def decode? (order : Nat) (octets : Bytes) : Option NumberPair :=
  let reader : Der.Reader NumberPair := Der.sequence do
    let r ← Der.Integer.naturalReader
    return ⟨r, ← Der.Integer.naturalReader⟩
  match Der.within reader octets with
  | .error _ => none
  | .ok pair =>
    if 0 < pair.r ∧ pair.r < order ∧ 0 < pair.s ∧ pair.s < order then some pair else none

/-- The exponents of the base and of the public key. -/
def exponents? (order digest : Nat) (pair : NumberPair) : Option (Nat × Nat) :=
  match Modular.inverse? order pair.s with
  | none => none
  | some w => some (digest * w % order, pair.r * w % order)

end NumberPair

/-! ### Over remainders -/

namespace Dsa

/-- The limits on the shared numbers: the order has one of three lengths, the prime is
odd and has at most 10000 bits. -/
def isUsable (domain : DsaDomain) : Bool :=
  [160, 224, 256].contains (PublicKey.bitLength domain.q)
    && domain.p % 2 == 1 && PublicKey.bitLength domain.p ≤ 10000

/-- The digest as a number, cut to the length of the order. -/
def digestNumber (q : Nat) (digest : Bytes) : Nat :=
  Bytes.toNat (digest.take (PublicKey.bitLength q / 8))

/-- Checks a DSA signature. -/
def verify (domain : DsaDomain) (y : Nat) (hash : HashFunction) (message signature : Bytes) :
    Bool :=
  let digest := digestNumber domain.q (hash.digest message)
  match NumberPair.decode? domain.q signature with
  | none => false
  | some pair =>
    match pair.exponents? domain.q digest with
    | none => false
    | some (u, v) =>
      isUsable domain
        && Modular.pow domain.p domain.g u * Modular.pow domain.p y v % domain.p % domain.q
          == pair.r

end Dsa

/-! ### Over curves -/

namespace Ecdsa

/-- The digest as a number, cut to the length of the order. -/
def digestNumber (order : Nat) (digest : Bytes) : Nat :=
  Bytes.toNat digest >>> (8 * digest.length - PublicKey.bitLength order)

/-- Checks an ECDSA signature. -/
def verify (curve : Weierstrass) (key : Weierstrass.Point) (hash : HashFunction)
    (message signature : Bytes) : Bool :=
  let digest := digestNumber curve.order (hash.digest message)
  match NumberPair.decode? curve.order signature with
  | none => false
  | some pair =>
    match pair.exponents? curve.order digest with
    | none => false
    | some (u, v) =>
      let sum := curve.add (curve.multiply u curve.base.toProjective)
        (curve.multiply v key.toProjective)
      match curve.firstCoordinate? sum with
      | none => false
      | some x => x % curve.order == pair.r

end Ecdsa
end CertChain
