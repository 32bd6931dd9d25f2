import CertChain.Certificate.Document
import CertChain.Curve.Named

/-!
# Public keys

The key in a certificate is a string of bits under an algorithm identifier.
`PublicKey.ofSubjectKey` decodes it: it takes the keys of the signature algorithms in
use and those of two key agreements, and says of any other why it is none
(`PublicKey.Error`).

A key that is decoded has been looked at as far as its kind allows: the numbers of an
RSA key have the right size, a point lies on its curve. Whether a number is prime, or
whether someone knows the private half, is not looked at.
-/

namespace CertChain

/-- A public key. -/
inductive PublicKey where
  | rsa (modulus exponent : Nat)
  | ellipticCurve (curve : NamedCurve) (point : Weierstrass.Point)
  | dsa (domain : DsaDomain) (y : Nat)
  | ed25519 (octets : Bytes)
  | ed448 (octets : Bytes)
  | x25519 (octets : Bytes)
  | x448 (octets : Bytes)
  deriving DecidableEq, Repr

namespace PublicKey

/-- Why a key cannot be decoded. -/
inductive Error where
  /-- No key is made for this algorithm. -/
  | unsupportedAlgorithm
  /-- The curve is none of those in use. -/
  | unsupportedCurve
  /-- The bits do not fill whole octets. -/
  | unusedBits
  /-- The octets are not the encoding of a key of this kind. -/
  | badEncoding (reason : Der.Error)
  /-- A number is too small, too large or even. -/
  | badNumber
  /-- There is no such point. -/
  | badPoint
  /-- The number of octets is wrong. -/
  | badSize
  deriving DecidableEq, Repr

/-- The words for an error. Whether a key is refused is settled by its algorithm and its octets, and
the wording is left to whoever reads it. -/
def Error.text : Error → String
  | .unsupportedAlgorithm => "no keys are known for this algorithm"
  | .unsupportedCurve => "the curve is not in use"
  | .unusedBits => "the key does not fill whole octets"
  | .badEncoding reason => "the key is not well formed: " ++ reason.text
  | .badNumber => "a number in the key is out of range"
  | .badPoint => "the key is no point of its curve"
  | .badSize => "the key has the wrong size"

/-- The name of a key's kind, as messages and reports give it. -/
def kindName : PublicKey → String
  | .rsa .. => "RSAPublicKey"
  | .ellipticCurve .. => "ECPublicKey"
  | .dsa .. => "DSAPublicKey"
  | .ed25519 _ => "Ed25519PublicKey"
  | .ed448 _ => "Ed448PublicKey"
  | .x25519 _ => "X25519PublicKey"
  | .x448 _ => "X448PublicKey"

/-- The number of binary digits of `n`. -/
def bitLength (n : Nat) : Nat :=
  if n = 0 then 0 else n.log2 + 1

/-! ### Decoding -/

/-- Reads an octet string with `reader`. -/
def decode (reader : Der.Reader α) (octets : Bytes) : Except Error α :=
  match Der.within reader octets with
  | .ok value => .ok value
  | .error reason => .error (.badEncoding reason)

/-- Modulus and exponent. The exponent is odd, at least 3 and below the modulus. -/
def decodeRsa (octets : Bytes) : Except Error PublicKey := do
  let (n, e) ← decode (Der.sequence do
    let n ← Der.Integer.naturalReader
    return (n, ← Der.Integer.naturalReader)) octets
  if 3 ≤ e ∧ e % 2 = 1 ∧ e < n then return .rsa n e else throw .badNumber

/-- The curve that parameters choose. -/
def chooseCurve (parameters : Der.Element) : Except Error NamedCurve :=
  match CurveChoice.ofElement parameters with
  | .error reason => .error (.badEncoding reason)
  | .ok choice =>
    let found :=
      match choice with
      | .named id => NamedCurve.ofId? id
      | .inherited => none
      | .explicit curve => NamedCurve.ofExplicit? curve
    match found with
    | some curve => .ok curve
    | none => .error .unsupportedCurve

/-- A point on the curve that the parameters choose. -/
def decodePoint (parameters : Der.Element) (octets : Bytes) : Except Error PublicKey := do
  let named ← chooseCurve parameters
  match named.curve.decode? octets with
  | some point => return .ellipticCurve named point
  | none => throw .badPoint

/-- The public number of a DSA key; the parameters hold the shared ones. -/
def decodeDsa (parameters : Der.Element) (octets : Bytes) : Except Error PublicKey := do
  match DsaDomain.ofElement parameters with
  | .error reason => throw (.badEncoding reason)
  | .ok domain => return .dsa domain (← decode Der.Integer.naturalReader octets)

/-- A key that is `size` octets and nothing else. -/
def decodeOctets (size : Nat) (build : Bytes → PublicKey) (octets : Bytes) :
    Except Error PublicKey :=
  if octets.length = size then .ok (build octets) else .error .badSize

/-- **Decodes a key** as its algorithm demands. -/
def ofSubjectKey (key : SubjectKey) : Except Error PublicKey :=
  let octets := key.bits.octets
  if key.bits.unused ≠ 0 then .error .unusedBits
  else
    let id := key.algorithm.id
    if id = Algorithm.rsaEncryption ∨ id = Algorithm.rsaPss then decodeRsa octets
    else if id = Algorithm.ed25519 then decodeOctets 32 .ed25519 octets
    else if id = Algorithm.ed448 then decodeOctets 57 .ed448 octets
    else if id = Algorithm.x25519 then decodeOctets 32 .x25519 octets
    else if id = Algorithm.x448 then decodeOctets 56 .x448 octets
    else
      match key.algorithm.parameters with
      | none => .error .unsupportedAlgorithm
      | some parameters =>
        if id = Algorithm.ellipticCurve then decodePoint parameters octets
        else if id = Algorithm.dsa then decodeDsa parameters octets
        else .error .unsupportedAlgorithm

end PublicKey
end CertChain
