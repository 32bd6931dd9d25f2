import CertChain.Failure
import CertChain.Signature.Dsa
import CertChain.Signature.Eddsa
import CertChain.Signature.Rsa

/-!
# Checking a signature

How a certificate is to be checked is said twice over: by the signer's key, and by the
algorithm identifier beside the signature. Only where the two fit is there anything to
compute; otherwise the check is refused (`Refusal`), which is not the same as a
signature that does not hold.

From an identifier two things are read, each in its own way: the scheme with its
padding (`Scheme.ofAlgorithm`) and the hash function (`signatureHash`). Identifiers that
belong to neither RSA nor ECDSA have no scheme, and their hash function decides what a
DSA key makes of them.
-/

namespace CertChain

/-- Why a signature cannot be checked with a key. -/
inductive Refusal where
  /-- Keys of this kind make no such signatures. -/
  | keyMismatch (kindName : String) (algorithm : Oid)
  /-- An RSA signature that names no hash function. -/
  | rsaWithoutHash
  /-- A signature that is to be checked with a DSA key and names no hash function. -/
  | dsaWithoutHash
  /-- The signature algorithm is not known. -/
  | unknownSignature (algorithm : Oid)
  /-- The hash algorithm is not known. -/
  | unknownHash (algorithm : Oid)
  /-- The parameters of the signature are missing or not usable. -/
  | badParameters
  /-- The key is too small for a padding with salt. -/
  | keyTooSmall
  deriving DecidableEq, Repr

namespace Refusal

/-- A refusal as a fault. The words of the first three are what the check itself says. The others
come from the reading of algorithms and from the arithmetic of keys; of these the kind is fixed, and
the wording is one of many that would do, kept in one line as such messages are. -/
def fault : Refusal → Fault
  | .keyMismatch kindName algorithm =>
    .ofText Fault.Kind.type
      (kindName ++ " cannot check a signature made with " ++ algorithm.dotted)
  | .rsaWithoutHash => .ofText Fault.Kind.type "RSA signature without a hash algorithm"
  | .dsaWithoutHash => .ofText Fault.Kind.type "DSA signature without a hash algorithm"
  | .unknownSignature algorithm =>
    .ofText .unsupportedAlgorithm ("unknown signature algorithm " ++ algorithm.dotted)
  | .unknownHash algorithm =>
    .ofText .unsupportedAlgorithm ("unknown hash algorithm " ++ algorithm.dotted)
  | .badParameters => .ofText Fault.Kind.value "the signature parameters are not usable"
  | .keyTooSmall => .ofText Fault.Kind.value "the key is too small for the digest"

end Refusal

/-! ### What an identifier says -/

/-- The hash functions of signature algorithms. Some are known to use none that could
be named. -/
def signatureHashes : List (Oid × Option HashFunction) :=
  [(Algorithm.rsaWithMd5, some .md5),
    (Algorithm.rsaWithSha1, some .sha1),
    (Algorithm.rsaWithSha1Old, some .sha1),
    (Algorithm.rsaWithSha224, some .sha224),
    (Algorithm.rsaWithSha256, some .sha256),
    (Algorithm.rsaWithSha384, some .sha384),
    (Algorithm.rsaWithSha512, some .sha512),
    (Algorithm.rsaWithSha3Of224, some .sha3Of224),
    (Algorithm.rsaWithSha3Of256, some .sha3Of256),
    (Algorithm.rsaWithSha3Of384, some .sha3Of384),
    (Algorithm.rsaWithSha3Of512, some .sha3Of512),
    (Algorithm.ecdsaWithSha1, some .sha1),
    (Algorithm.ecdsaWithSha224, some .sha224),
    (Algorithm.ecdsaWithSha256, some .sha256),
    (Algorithm.ecdsaWithSha384, some .sha384),
    (Algorithm.ecdsaWithSha512, some .sha512),
    (Algorithm.ecdsaWithSha3Of224, some .sha3Of224),
    (Algorithm.ecdsaWithSha3Of256, some .sha3Of256),
    (Algorithm.ecdsaWithSha3Of384, some .sha3Of384),
    (Algorithm.ecdsaWithSha3Of512, some .sha3Of512),
    (Algorithm.dsaWithSha1, some .sha1),
    (Algorithm.dsaWithSha224, some .sha224),
    (Algorithm.dsaWithSha256, some .sha256),
    (Algorithm.ed25519, none),
    (Algorithm.ed448, none),
    (Algorithm.gost94, none),
    (Algorithm.gost12Of256, none),
    (Algorithm.gost12Of512, none),
    (Algorithm.mlDsa44, none),
    (Algorithm.mlDsa65, none),
    (Algorithm.mlDsa87, none),
    (Algorithm.unsigned, none)]

/-- The parameters of an RSA signature with salt, which cannot do without them. -/
def saltedParameters (a : Algorithm) : Except Refusal PssParameters :=
  match a.parameters with
  | none => .error .badParameters
  | some e =>
    match PssParameters.ofElement e with
    | .ok parameters => .ok parameters
    | .error _ => .error .badParameters

/-- The hash function that parameters name. -/
def namedHash (id : Oid) : Except Refusal HashFunction :=
  match HashFunction.ofId? id with
  | some hash => .ok hash
  | none => .error (.unknownHash id)

/-- **The hash function of a signature**, if its algorithm has one. With salt it stands
in the parameters. -/
def signatureHash (a : Algorithm) : Except Refusal (Option HashFunction) :=
  if a.id = Algorithm.rsaPss then do
    return some (← namedHash (← saltedParameters a).hash)
  else
    match signatureHashes.lookup a.id with
    | some hash => .ok hash
    | none => .error (.unknownSignature a.id)

/-- How a signature was made, as far as its identifier says so. -/
inductive Scheme where
  /-- RSA with the fixed padding. -/
  | rsaFixed
  /-- RSA with salt: the hash function of the mask, and the length of the salt. -/
  | rsaSalted (maskHash : HashFunction) (saltLength : Nat)
  /-- ECDSA. -/
  | ecdsa (hash : HashFunction)
  /-- Any other algorithm, known or not. -/
  | unnamed
  deriving DecidableEq, Repr

/-- **The scheme of a signature.** -/
def Scheme.ofAlgorithm (a : Algorithm) : Except Refusal Scheme :=
  if a.id = Algorithm.rsaPss then do
    let parameters ← saltedParameters a
    if parameters.maskGeneration ≠ Algorithm.maskGeneration1 then throw .badParameters
    return .rsaSalted (← namedHash parameters.maskHash) parameters.saltLength
  else if Algorithm.rsaSignatures.contains a.id then .ok .rsaFixed
  else if Algorithm.ecdsaSignatures.contains a.id then do
    match ← signatureHash a with
    | some hash => return .ecdsa hash
    | none => throw .badParameters
  else .ok .unnamed

/-! ### The check -/

/-- Checks an RSA signature with salt; the key must have room for the digest. -/
def checkSalted (modulus exponent : Nat) (hash maskHash : HashFunction) (saltLength : Nat)
    (message signature : Bytes) : Except Refusal Bool :=
  if Rsa.size modulus < hash.size + 2 then .error .keyTooSmall
  else .ok (Rsa.verifySalted modulus exponent hash maskHash saltLength message signature)

/-- **Whether the key made the signature on a document**, if that can be said at all.
The scheme is read first, then the key has to fit it, and only then the hash function
is looked up. -/
def checkSignature (key : PublicKey) (signee : Document) : Except Refusal Bool := do
  let message := signee.body.write
  let signature := signee.signature.octets
  match key, ← Scheme.ofAlgorithm signee.algorithm with
  | .rsa n e, .rsaFixed =>
    match ← signatureHash signee.algorithm with
    | none => throw .rsaWithoutHash
    | some hash => return Rsa.verifyFixed n e hash message signature
  | .rsa n e, .rsaSalted maskHash saltLength =>
    match ← signatureHash signee.algorithm with
    | none => throw .rsaWithoutHash
    | some hash => checkSalted n e hash maskHash saltLength message signature
  | .ellipticCurve named point, .ecdsa hash =>
    return Ecdsa.verify named.curve point hash message signature
  | .ed25519 octets, .unnamed => return Eddsa.verify25519 octets message signature
  | .ed448 octets, .unnamed => return Eddsa.verify448 octets message signature
  | .dsa domain y, .unnamed =>
    match ← signatureHash signee.algorithm with
    | none => throw .dsaWithoutHash
    | some hash => return Dsa.verify domain y hash message signature
  | key, _ => throw (.keyMismatch key.kindName signee.algorithm.id)

end CertChain
