import CertChain.Algorithm.Parameters

/-!
# Known algorithms

Which parameters are right depends on the algorithm: none at all, an optional null, a
structure of its own, or, for an algorithm this library does not know, any one element.
`Algorithm.checkParameters` says which, and `Algorithm.reader` refuses a known algorithm
with wrong parameters.

Parameters may hold algorithm identifiers, and those parameters again. Each of them is
shorter than the one it stands in, so a reader that goes as many levels deep as its
input has octets (`Algorithm.readerOfDepth`) meets every one of them.
-/

namespace CertChain
namespace Algorithm

/-! ### Families -/

/-- The hash functions. -/
def hashes : List Oid :=
  [sha1, sha224, sha256, sha384, sha512, sha3Of224, sha3Of256, sha3Of384, sha3Of512,
    sha3Of224Provisional, sha3Of256Provisional, sha3Of384Provisional, sha3Of512Provisional]

/-- The message authentication codes that are made of a hash function. -/
def authenticationCodes : List Oid :=
  [hmacWithSha1, hmacWithSha224, hmacWithSha256, hmacWithSha384, hmacWithSha512]

/-- The algorithms whose parameters are an optional null. -/
def withOptionalNull : List Oid :=
  hashes ++ authenticationCodes ++ rsaSignatures ++ [rsaEncryption]

/-- The algorithms that take no parameters. -/
def withoutParameters : List Oid :=
  ecdsaSignatures
    ++ [dsaWithSha224, dsaWithSha256, dsaWithSha384, dsaWithSha512,
      ed25519, ed448, x25519, x448, mlDsa44, mlDsa65, mlDsa87, mlKem768, mlKem1024, unsigned]

/-- The algorithms whose parameters are a structure, which must be there, with the
reader of that structure. -/
def withStructure (nested : Der.Reader Algorithm) : List (Oid × Der.Reader Unit) :=
  [(ellipticCurve, discard CurveChoice.reader),
    (dsa, discard DsaDomain.reader),
    (diffieHellman, diffieHellmanReader),
    (diffieHellmanWithSubgroup, subgroupReader),
    (aes128Cbc, CipherParameters.vectorReader 16),
    (aes192Cbc, CipherParameters.vectorReader 16),
    (aes256Cbc, CipherParameters.vectorReader 16),
    (tripleDesCbc, CipherParameters.vectorReader 8),
    (rc2Cbc, CipherParameters.versionedReader),
    (pbeWithMd5AndDes, PasswordParameters.roundsReader (Der.octetsOfSize 8)),
    (pbeWithShaAndRc4, PasswordParameters.roundsReader PasswordParameters.anySalt),
    (pbeWithShaAndTripleDes, PasswordParameters.roundsReader PasswordParameters.anySalt),
    (pbeWithShaAndRc2, PasswordParameters.roundsReader PasswordParameters.anySalt),
    (pbkdf2, PasswordParameters.derivationReader nested),
    (scrypt, PasswordParameters.memoryHardReader),
    (pbes2, PasswordParameters.encryptionReader nested)]

/-! ### Checking -/

/-- **Which parameters are right.** An unknown algorithm may have any element. -/
def checkParameters (nested : Der.Reader Algorithm) (a : Algorithm) : Except Der.Error Unit :=
  if withOptionalNull.contains a.id then
    if a.parameters = none ∨ a.parameters = some null then .ok () else .error .badValue
  else if withoutParameters.contains a.id then
    if a.parameters = none then .ok () else .error .trailingData
  else if a.id = rsaPss then
    match a.parameters with
    | none => .ok ()
    | some e => Der.within (discard (PssParameters.reader nested)) e.write
  else
    match (withStructure nested).lookup a.id, a.parameters with
    | none, _ => .ok ()
    | some _, none => .error .truncated
    | some reader, some e => Der.within reader e.write

/-- An algorithm identifier with right parameters, at the front of the input. Algorithm
identifiers stand in it at most `depth` levels deep, its own level included. -/
def readerOfDepth : Nat → Der.Reader Algorithm
  | 0 => throw .truncated
  | depth + 1 => do
    let a ← anyReader
    a.checkParameters (readerOfDepth depth)
    return a

/-- **An algorithm identifier with right parameters**, at the front of the input. -/
def reader : Der.Reader Algorithm := do
  readerOfDepth (← get).length

end Algorithm

/-- The parameters that an element holds. -/
def PssParameters.ofElement (e : Der.Element) : Except Der.Error PssParameters :=
  Der.within (PssParameters.reader Algorithm.reader) e.write

end CertChain
