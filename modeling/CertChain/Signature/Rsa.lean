import CertChain.Digest.HashFunction
import CertChain.Modular
import CertChain.PublicKey

/-!
# RSA signatures

A signature is a number below the modulus; raised to the public exponent it must give
a padded digest of the message. There are two paddings. The older one is fixed: it
leaves nothing to choose, so the recovered block is compared with the only right one
(`paddedDigest`). The newer one holds salt under a mask, and the block is taken apart
(`isSalted`).
-/

namespace CertChain
namespace Rsa

/-- The number of octets in a number. -/
def size (n : Nat) : Nat := Bytes.widthOf n

/-- The limits on keys: the modulus is odd and has at most 16384 bits, and beyond 3072
bits the exponent has at most 64. -/
def isUsable (modulus exponent : Nat) : Bool :=
  modulus % 2 == 1 && PublicKey.bitLength modulus ≤ 16384
    && (PublicKey.bitLength modulus ≤ 3072 || PublicKey.bitLength exponent ≤ 64)

/-- **The block that a signature holds**, as long as the modulus. The signature must
be as long as that too, and below it. -/
def recover? (modulus exponent : Nat) (signature : Bytes) : Option Bytes :=
  let s := Bytes.toNat signature
  if isUsable modulus exponent ∧ signature.length = size modulus ∧ s < modulus then
    some (Bytes.ofNat (size modulus) (Modular.pow modulus s exponent))
  else none

/-! ### The fixed padding -/

/-- A digest together with the name of its hash function. -/
def digestInfo (hash : HashFunction) (digest : Bytes) : Bytes :=
  Der.writeSequence ((Algorithm.toElement ⟨hash.id, some Algorithm.null⟩).write
    ++ (Der.Element.make Der.octetStringTag digest).write)

/-- The only right block of `size` octets, if the digest fits with eight octets of
filling. -/
def paddedDigest (size : Nat) (hash : HashFunction) (message : Bytes) : Option Bytes :=
  let info := digestInfo hash (hash.digest message)
  if info.length + 11 ≤ size then
    some (0 :: 1 :: List.replicate (size - info.length - 3) 0xFF ++ 0 :: info)
  else none

/-- Checks a signature with the fixed padding. -/
def verifyFixed (modulus exponent : Nat) (hash : HashFunction) (message signature : Bytes) :
    Bool :=
  match recover? modulus exponent signature, paddedDigest (size modulus) hash message with
  | some block, some expected => block == expected
  | _, _ => false

/-! ### The padding with salt -/

/-- The mask of `length` octets that grows from a seed. -/
def mask (hash : HashFunction) (seed : Bytes) (length : Nat) : Bytes :=
  ((List.range (length / hash.size + 1)).flatMap fun i =>
    hash.digest (seed ++ Bytes.ofNat 4 i)).take length

/-- The octets with the first `bits` bits of the first one cleared. -/
def clearLeading (bits : Nat) : Bytes → Bytes
  | [] => []
  | b :: rest => UInt8.ofNat (b.toNat % (1 <<< (8 - bits))) :: rest

/-- Whether `block`, of which the first `spare` bits are not in use, holds a salted
digest of the message: masked filling, a one and the salt, then the digest of message
digest and salt, then a fixed octet. -/
def isSalted (hash maskHash : HashFunction) (saltLength spare : Nat) (message block : Bytes) :
    Bool :=
  let maskedLength := block.length - hash.size - 1
  let masked := block.take maskedLength
  let digest := (block.drop maskedLength).take hash.size
  let plain := clearLeading spare
    (List.zipWith (· ^^^ ·) masked (mask maskHash digest maskedLength))
  let salt := plain.drop (maskedLength - saltLength)
  hash.size + saltLength + 2 ≤ block.length
    && block.getLast? == some 0xBC
    && clearLeading spare masked == masked
    && plain == List.replicate (maskedLength - saltLength - 1) 0 ++ 1 :: salt
    && hash.digest (List.replicate 8 0 ++ hash.digest message ++ salt) == digest

/-- Checks a signature with salt. The block has one bit less than the modulus, so it
may be one octet shorter. -/
def verifySalted (modulus exponent : Nat) (hash maskHash : HashFunction) (saltLength : Nat)
    (message signature : Bytes) : Bool :=
  match recover? modulus exponent signature with
  | none => false
  | some block =>
    let bits := PublicKey.bitLength modulus - 1
    let short := bits % 8 == 0
    (!short || block.head? == some 0)
      && isSalted hash maskHash saltLength ((8 - bits % 8) % 8) message
        (if short then block.tail else block)

end Rsa
end CertChain
