import CertChain.Algorithm
import CertChain.Digest.Keccak
import CertChain.Digest.Md5
import CertChain.Digest.Sha1
import CertChain.Digest.Sha2

/-!
# Hash functions

The hash functions that signatures may be made with: what each computes
(`HashFunction.digest`) and which identifier names it (`HashFunction.id`). The newest
four were in use under other identifiers before they had theirs, and go by both.
-/

namespace CertChain

/-- A hash function. -/
inductive HashFunction where
  | md5
  | sha1
  | sha224
  | sha256
  | sha384
  | sha512
  | sha3Of224
  | sha3Of256
  | sha3Of384
  | sha3Of512
  deriving DecidableEq, Repr

namespace HashFunction

/-- The number of octets in a digest. -/
def size : HashFunction → Nat
  | .md5 => 16
  | .sha1 => 20
  | .sha224 | .sha3Of224 => 28
  | .sha256 | .sha3Of256 => 32
  | .sha384 | .sha3Of384 => 48
  | .sha512 | .sha3Of512 => 64

/-- The digest of a message. -/
def digest : HashFunction → Bytes → Bytes
  | .md5 => Digest.Md5.digest
  | .sha1 => Digest.Sha1.digest
  | .sha224 => Digest.Sha2.digest224
  | .sha256 => Digest.Sha2.digest256
  | .sha384 => Digest.Sha2.digest384
  | .sha512 => Digest.Sha2.digest512
  | .sha3Of224 => Digest.Keccak.digest 28
  | .sha3Of256 => Digest.Keccak.digest 32
  | .sha3Of384 => Digest.Keccak.digest 48
  | .sha3Of512 => Digest.Keccak.digest 64

/-- The identifier of a hash function. -/
def id : HashFunction → Oid
  | .md5 => .ofArcs [1, 2, 840, 113549, 2, 5]
  | .sha1 => Algorithm.sha1
  | .sha224 => Algorithm.sha224
  | .sha256 => Algorithm.sha256
  | .sha384 => Algorithm.sha384
  | .sha512 => Algorithm.sha512
  | .sha3Of224 => Algorithm.sha3Of224
  | .sha3Of256 => Algorithm.sha3Of256
  | .sha3Of384 => Algorithm.sha3Of384
  | .sha3Of512 => Algorithm.sha3Of512

/-- The identifier that a hash function went by before it was given its own. -/
def provisionalId? : HashFunction → Option Oid
  | .sha3Of224 => some Algorithm.sha3Of224Provisional
  | .sha3Of256 => some Algorithm.sha3Of256Provisional
  | .sha3Of384 => some Algorithm.sha3Of384Provisional
  | .sha3Of512 => some Algorithm.sha3Of512Provisional
  | _ => none

/-- The hash functions that may be named in parameters. -/
def current : List HashFunction :=
  [.sha1, .sha224, .sha256, .sha384, .sha512, .sha3Of224, .sha3Of256, .sha3Of384, .sha3Of512]

/-- The hash function that an identifier names in parameters. -/
def ofId? (id : Oid) : Option HashFunction :=
  current.find? fun hash => hash.id = id ∨ hash.provisionalId? = some id

end HashFunction
end CertChain
