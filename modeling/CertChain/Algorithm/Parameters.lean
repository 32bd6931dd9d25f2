import CertChain.Algorithm
import CertChain.Der.Primitive

/-!
# Parameters of algorithms

What stands beside an object identifier in an algorithm identifier: the numbers of a
key, the hash functions and the salt of a signature, the vector of a cipher, or the
salt and the count by which a password is turned into a key. A certificate has use for
the first two only; the others are checked where they occur and forgotten.

Some parameters hold algorithm identifiers in their turn. Their readers take a reader
of those as an argument, `nested`, so that this module says what the parameters look
like and `CertChain.Algorithm.Known` how deep they go.
-/

namespace CertChain

/-- The bound on numbers that fit a word of 32 bits. -/
def wordLimit : Nat := 1 <<< 32

/-- The bound on numbers that fit a word of 64 bits. -/
def longWordLimit : Nat := 1 <<< 64

/-! ### Parameters of the padding with salt -/

/-- The parameters of an RSA signature whose padding holds salt. -/
structure PssParameters where
  hash : Oid
  maskGeneration : Oid
  maskHash : Oid
  saltLength : Nat
  deriving DecidableEq, Repr

namespace PssParameters

/-- The hash algorithm that is meant when none is named. -/
def defaultHash : Algorithm :=
  ⟨Algorithm.sha1, some Algorithm.null⟩

/-- A field that is left out when it has its default: written out, the default is an
error. -/
def defaulted [DecidableEq α] (tag : UInt8) (default : α) (reader : Der.Reader α) :
    Der.Reader α := do
  match ← Der.optional tag with
  | none => return default
  | some contents =>
    let value ← Der.within reader contents
    if value = default then throw .badValue else return value

/-- A mask generation function with its hash. -/
def maskReader (nested : Der.Reader Algorithm) : Der.Reader (Oid × Algorithm) :=
  Der.sequence do
    let id ← Oid.reader
    return (id, ← nested)

/-- **The parameters**: hash, mask generation and salt length with their defaults, and
a trailer number, which is not looked at. What is named as a hash may be any algorithm;
whether it is a hash function shows when a digest is wanted. -/
def reader (nested : Der.Reader Algorithm) : Der.Reader PssParameters :=
  Der.sequence do
    let hash ← defaulted (Der.contextTag 0) defaultHash nested
    let mask ← defaulted (Der.contextTag 1) (Algorithm.maskGeneration1, defaultHash)
      (maskReader nested)
    let saltLength ← defaulted (Der.contextTag 2) 20 (Der.Integer.boundedReader 0x10000)
    if let some contents ← Der.optional (Der.contextTag 3) then
      let _ ← Der.within (Der.Integer.boundedReader 0x100) contents
    return ⟨hash.id, mask.1, mask.2.id, saltLength⟩

end PssParameters

/-! ### Parameters of keys -/

/-- The numbers that DSA keys share: a prime, the order of a subgroup and a generator
of it. -/
structure DsaDomain where
  p : Nat
  q : Nat
  g : Nat
  deriving DecidableEq, Repr

namespace DsaDomain

def reader : Der.Reader DsaDomain :=
  Der.sequence do
    let p ← Der.Integer.naturalReader
    let q ← Der.Integer.naturalReader
    return ⟨p, q, ← Der.Integer.naturalReader⟩

/-- The numbers that an element holds. -/
def ofElement (e : Der.Element) : Except Der.Error DsaDomain :=
  Der.within reader e.write

end DsaDomain

/-- A curve over a prime field, spelled out: the equation's coefficients and the base
point are octet strings, and the seed tells how the coefficients were found. -/
structure ExplicitCurve where
  version : Nat
  prime : Nat
  a : Bytes
  b : Bytes
  seed : Option Der.BitString
  base : Bytes
  order : Nat
  cofactor : Option Nat
  deriving DecidableEq, Repr

namespace ExplicitCurve

def reader : Der.Reader ExplicitCurve :=
  Der.sequence do
    let version ← Der.Integer.boundedReader 0x100
    let prime ← Der.sequence do
      let field ← Oid.reader
      if field = Algorithm.primeField then Der.Integer.naturalReader else throw .badValue
    let (a, b, seed) ← Der.sequence do
      let a ← Der.expect Der.octetStringTag
      let b ← Der.expect Der.octetStringTag
      match ← Der.optional Der.bitStringTag with
      | none => return (a, b, none)
      | some seed => return (a, b, some (← Der.BitString.ofContents seed))
    let base ← Der.expect Der.octetStringTag
    let order ← Der.Integer.naturalReader
    let cofactor ← Der.Integer.optionalReader 0x100
    return ⟨version, prime, a, b, seed, base, order, cofactor⟩

end ExplicitCurve

/-- How a key says which curve it is on. -/
inductive CurveChoice where
  /-- By the curve's name. -/
  | named (id : Oid)
  /-- Not at all: the curve is inherited from elsewhere. -/
  | inherited
  /-- By the curve's equation. -/
  | explicit (curve : ExplicitCurve)
  deriving DecidableEq, Repr

namespace CurveChoice

/-- The choice that an element holds. -/
def ofElement (e : Der.Element) : Except Der.Error CurveChoice :=
  if e.hasTag Der.oidTag then CurveChoice.named <$> Oid.ofContents e.contents
  else if e = Algorithm.null then .ok .inherited
  else CurveChoice.explicit <$> Der.within ExplicitCurve.reader e.write

/-- The choice at the front of the input. -/
def reader : Der.Reader CurveChoice := do
  ofElement (← Der.anyElement)

end CurveChoice

/-- The parameters of a key agreement: two numbers and perhaps a length. -/
def diffieHellmanReader : Der.Reader Unit :=
  Der.sequence do
    let _ ← Der.Integer.naturalReader
    let _ ← Der.Integer.naturalReader
    let _ ← Der.Integer.optionalReader wordLimit

/-- The parameters of a key agreement in a subgroup: three numbers, perhaps a fourth,
and perhaps a structure that tells how they were found. -/
def subgroupReader : Der.Reader Unit :=
  Der.sequence do
    let _ ← Der.Integer.naturalReader
    let _ ← Der.Integer.naturalReader
    let _ ← Der.Integer.naturalReader
    let _ ← Der.whenNext Der.integerTag Der.Integer.naturalReader
    let _ ← Der.optional Der.sequenceTag

/-! ### Parameters of ciphers and of passwords -/

namespace CipherParameters

/-- The vector that a cipher with blocks of `size` octets starts from. -/
def vectorReader (size : Nat) : Der.Reader Unit := do
  let _ ← Der.octetsOfSize size

/-- A version number, which may be missing and stands for the length of the key, and a
vector of eight octets. -/
def versionedReader : Der.Reader Unit :=
  Der.sequence do
    let _ ← Der.Integer.optionalReader wordLimit
    vectorReader 8

end CipherParameters

namespace PasswordParameters

/-- A salt, read by `salt`, and a count of rounds. -/
def roundsReader (salt : Der.Reader Bytes) : Der.Reader Unit :=
  Der.sequence do
    let _ ← salt
    let _ ← Der.Integer.boundedReader longWordLimit

/-- A salt of any length. -/
def anySalt : Der.Reader Bytes :=
  Der.expect Der.octetStringTag

/-- The algorithm that derives a key when none is named. -/
def defaultDerivation : Algorithm :=
  ⟨Algorithm.hmacWithSha1, some Algorithm.null⟩

/-- Salt, count of rounds, perhaps the length of the key, and the algorithm that is
run, which is not written when it is the default. -/
def derivationReader (nested : Der.Reader Algorithm) : Der.Reader Unit :=
  Der.sequence do
    let _ ← anySalt
    let _ ← Der.Integer.boundedReader longWordLimit
    let _ ← Der.Integer.optionalReader longWordLimit
    if (← Der.whenNext Der.sequenceTag nested) = some defaultDerivation then throw .badValue

/-- Salt, cost, block size, parallelization and perhaps the length of the key. -/
def memoryHardReader : Der.Reader Unit :=
  Der.sequence do
    let _ ← anySalt
    let _ ← Der.Integer.boundedReader longWordLimit
    let _ ← Der.Integer.boundedReader longWordLimit
    let _ ← Der.Integer.boundedReader longWordLimit
    let _ ← Der.Integer.optionalReader wordLimit

/-- How the key is derived, and the cipher that it is for. -/
def encryptionReader (nested : Der.Reader Algorithm) : Der.Reader Unit :=
  Der.sequence do
    let _ ← nested
    let _ ← nested

end PasswordParameters
end CertChain
