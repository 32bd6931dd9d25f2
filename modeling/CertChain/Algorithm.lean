import CertChain.Oid

/-!
# Algorithm identifiers

A certificate names algorithms in three places: twice for its own signature and once
for the key it certifies. A name is an object identifier, perhaps with parameters.

This module holds the identifiers and the type, with the parameters as the element
they came in. What the parameters of each algorithm look like is said beside it, in
`CertChain.Algorithm.Parameters`; which algorithm takes which, and the reader that
insists on it, in `CertChain.Algorithm.Known`.
-/

namespace CertChain

/-- An algorithm identifier. -/
structure Algorithm where
  id : Oid
  parameters : Option Der.Element
  deriving DecidableEq, Repr

namespace Algorithm

/-! ### Identifiers -/

def sha1 : Oid := .ofArcs [1, 3, 14, 3, 2, 26]
def sha224 : Oid := .ofArcs [2, 16, 840, 1, 101, 3, 4, 2, 4]
def sha256 : Oid := .ofArcs [2, 16, 840, 1, 101, 3, 4, 2, 1]
def sha384 : Oid := .ofArcs [2, 16, 840, 1, 101, 3, 4, 2, 2]
def sha512 : Oid := .ofArcs [2, 16, 840, 1, 101, 3, 4, 2, 3]
def sha3Of224 : Oid := .ofArcs [2, 16, 840, 1, 101, 3, 4, 2, 7]
def sha3Of256 : Oid := .ofArcs [2, 16, 840, 1, 101, 3, 4, 2, 8]
def sha3Of384 : Oid := .ofArcs [2, 16, 840, 1, 101, 3, 4, 2, 9]
def sha3Of512 : Oid := .ofArcs [2, 16, 840, 1, 101, 3, 4, 2, 10]

def sha3Of224Provisional : Oid := .ofArcs [1, 3, 6, 1, 4, 1, 37476, 3, 2, 1, 99, 7, 224]
def sha3Of256Provisional : Oid := .ofArcs [1, 3, 6, 1, 4, 1, 37476, 3, 2, 1, 99, 7, 256]
def sha3Of384Provisional : Oid := .ofArcs [1, 3, 6, 1, 4, 1, 37476, 3, 2, 1, 99, 7, 384]
def sha3Of512Provisional : Oid := .ofArcs [1, 3, 6, 1, 4, 1, 37476, 3, 2, 1, 99, 7, 512]

def hmacWithSha1 : Oid := .ofArcs [1, 2, 840, 113549, 2, 7]
def hmacWithSha224 : Oid := .ofArcs [1, 2, 840, 113549, 2, 8]
def hmacWithSha256 : Oid := .ofArcs [1, 2, 840, 113549, 2, 9]
def hmacWithSha384 : Oid := .ofArcs [1, 2, 840, 113549, 2, 10]
def hmacWithSha512 : Oid := .ofArcs [1, 2, 840, 113549, 2, 11]

def rsaEncryption : Oid := .ofArcs [1, 2, 840, 113549, 1, 1, 1]
def rsaWithMd5 : Oid := .ofArcs [1, 2, 840, 113549, 1, 1, 4]
def rsaWithSha1 : Oid := .ofArcs [1, 2, 840, 113549, 1, 1, 5]
def rsaWithSha1Old : Oid := .ofArcs [1, 3, 14, 3, 2, 29]
def maskGeneration1 : Oid := .ofArcs [1, 2, 840, 113549, 1, 1, 8]
def rsaPss : Oid := .ofArcs [1, 2, 840, 113549, 1, 1, 10]
def rsaWithSha256 : Oid := .ofArcs [1, 2, 840, 113549, 1, 1, 11]
def rsaWithSha384 : Oid := .ofArcs [1, 2, 840, 113549, 1, 1, 12]
def rsaWithSha512 : Oid := .ofArcs [1, 2, 840, 113549, 1, 1, 13]
def rsaWithSha224 : Oid := .ofArcs [1, 2, 840, 113549, 1, 1, 14]
def rsaWithSha3Of224 : Oid := .ofArcs [2, 16, 840, 1, 101, 3, 4, 3, 13]
def rsaWithSha3Of256 : Oid := .ofArcs [2, 16, 840, 1, 101, 3, 4, 3, 14]
def rsaWithSha3Of384 : Oid := .ofArcs [2, 16, 840, 1, 101, 3, 4, 3, 15]
def rsaWithSha3Of512 : Oid := .ofArcs [2, 16, 840, 1, 101, 3, 4, 3, 16]

def ellipticCurve : Oid := .ofArcs [1, 2, 840, 10045, 2, 1]
def primeField : Oid := .ofArcs [1, 2, 840, 10045, 1, 1]
def ecdsaWithSha1 : Oid := .ofArcs [1, 2, 840, 10045, 4, 1]
def ecdsaWithSha224 : Oid := .ofArcs [1, 2, 840, 10045, 4, 3, 1]
def ecdsaWithSha256 : Oid := .ofArcs [1, 2, 840, 10045, 4, 3, 2]
def ecdsaWithSha384 : Oid := .ofArcs [1, 2, 840, 10045, 4, 3, 3]
def ecdsaWithSha512 : Oid := .ofArcs [1, 2, 840, 10045, 4, 3, 4]
def ecdsaWithSha3Of224 : Oid := .ofArcs [2, 16, 840, 1, 101, 3, 4, 3, 9]
def ecdsaWithSha3Of256 : Oid := .ofArcs [2, 16, 840, 1, 101, 3, 4, 3, 10]
def ecdsaWithSha3Of384 : Oid := .ofArcs [2, 16, 840, 1, 101, 3, 4, 3, 11]
def ecdsaWithSha3Of512 : Oid := .ofArcs [2, 16, 840, 1, 101, 3, 4, 3, 12]

def dsa : Oid := .ofArcs [1, 2, 840, 10040, 4, 1]
def dsaWithSha1 : Oid := .ofArcs [1, 2, 840, 10040, 4, 3]
def dsaWithSha224 : Oid := .ofArcs [2, 16, 840, 1, 101, 3, 4, 3, 1]
def dsaWithSha256 : Oid := .ofArcs [2, 16, 840, 1, 101, 3, 4, 3, 2]
def dsaWithSha384 : Oid := .ofArcs [2, 16, 840, 1, 101, 3, 4, 3, 3]
def dsaWithSha512 : Oid := .ofArcs [2, 16, 840, 1, 101, 3, 4, 3, 4]

def x25519 : Oid := .ofArcs [1, 3, 101, 110]
def x448 : Oid := .ofArcs [1, 3, 101, 111]
def ed25519 : Oid := .ofArcs [1, 3, 101, 112]
def ed448 : Oid := .ofArcs [1, 3, 101, 113]

def diffieHellman : Oid := .ofArcs [1, 2, 840, 113549, 1, 3, 1]
def diffieHellmanWithSubgroup : Oid := .ofArcs [1, 2, 840, 10046, 2, 1]

def gost94 : Oid := .ofArcs [1, 2, 643, 2, 2, 3]
def gost12Of256 : Oid := .ofArcs [1, 2, 643, 7, 1, 1, 3, 2]
def gost12Of512 : Oid := .ofArcs [1, 2, 643, 7, 1, 1, 3, 3]
def mlDsa44 : Oid := .ofArcs [2, 16, 840, 1, 101, 3, 4, 3, 17]
def mlDsa65 : Oid := .ofArcs [2, 16, 840, 1, 101, 3, 4, 3, 18]
def mlDsa87 : Oid := .ofArcs [2, 16, 840, 1, 101, 3, 4, 3, 19]
def mlKem768 : Oid := .ofArcs [2, 16, 840, 1, 101, 3, 4, 4, 2]
def mlKem1024 : Oid := .ofArcs [2, 16, 840, 1, 101, 3, 4, 4, 3]
def unsigned : Oid := .ofArcs [1, 3, 6, 1, 5, 5, 7, 6, 36]

def aes128Cbc : Oid := .ofArcs [2, 16, 840, 1, 101, 3, 4, 1, 2]
def aes192Cbc : Oid := .ofArcs [2, 16, 840, 1, 101, 3, 4, 1, 22]
def aes256Cbc : Oid := .ofArcs [2, 16, 840, 1, 101, 3, 4, 1, 42]
def tripleDesCbc : Oid := .ofArcs [1, 2, 840, 113549, 3, 7]
def rc2Cbc : Oid := .ofArcs [1, 2, 840, 113549, 3, 2]

def pbkdf2 : Oid := .ofArcs [1, 2, 840, 113549, 1, 5, 12]
def pbes2 : Oid := .ofArcs [1, 2, 840, 113549, 1, 5, 13]
def scrypt : Oid := .ofArcs [1, 3, 6, 1, 4, 1, 11591, 4, 11]
def pbeWithMd5AndDes : Oid := .ofArcs [1, 2, 840, 113549, 1, 5, 3]
def pbeWithShaAndRc4 : Oid := .ofArcs [1, 2, 840, 113549, 1, 12, 1, 1]
def pbeWithShaAndTripleDes : Oid := .ofArcs [1, 2, 840, 113549, 1, 12, 1, 3]
def pbeWithShaAndRc2 : Oid := .ofArcs [1, 2, 840, 113549, 1, 12, 1, 6]

/-- The RSA signature algorithms with a fixed hash and the older padding. -/
def rsaSignatures : List Oid :=
  [rsaWithSha1, rsaWithSha1Old, rsaWithSha224, rsaWithSha256, rsaWithSha384, rsaWithSha512,
    rsaWithSha3Of224, rsaWithSha3Of256, rsaWithSha3Of384, rsaWithSha3Of512]

/-- The elliptic-curve signature algorithms in use. -/
def ecdsaSignatures : List Oid :=
  [ecdsaWithSha224, ecdsaWithSha256, ecdsaWithSha384, ecdsaWithSha512,
    ecdsaWithSha3Of224, ecdsaWithSha3Of256, ecdsaWithSha3Of384, ecdsaWithSha3Of512]

/-! ### Written form -/

/-- The null element. -/
def null : Der.Element :=
  .make Der.nullTag []

/-- The algorithm identifier as an element. -/
def toElement (a : Algorithm) : Der.Element :=
  .make Der.sequenceTag
    (a.id.toElement.write ++ (a.parameters.map Der.Element.write).getD [])

/-- An algorithm identifier at the front of the input, whatever its parameters. -/
def anyReader : Der.Reader Algorithm :=
  Der.sequence do
    let id ← Oid.reader
    return ⟨id, ← Der.optionalElement⟩

end Algorithm
end CertChain
