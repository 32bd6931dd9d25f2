import CertChain.Bytes

/-!
# Padded messages

The hash functions that chain a compression function all begin in the same way: the
message is lengthened by a single one bit, by zeros, and by its own length in bits, so
that it fills whole blocks, and each block is cut into words. They differ in the size
of the block, in the room for the length, and in the order of octets.

`fractionBits` gives the constants that two families of them use: the first bits of
the fractional part of a root of a prime.
-/

namespace CertChain
namespace Digest

/-- Consecutive runs of `size` octets; the last one may be shorter. -/
def runs (size : Nat) (bytes : Bytes) : List Bytes :=
  if _h : bytes = [] ∨ size = 0 then []
  else bytes.take size :: runs size (bytes.drop size)
termination_by bytes.length
decreasing_by
  have : bytes ≠ [] := fun h => _h (.inl h)
  have := List.length_pos_iff.mpr this
  simp only [List.length_drop]
  omega

/-- **The padding** behind a message of `length` octets: one octet for the one bit,
and the fewest zeros that leave room for `width` octets of length in the last block. -/
def padding (block width length : Nat) : Bytes :=
  0x80 :: List.replicate ((2 * block - 1 - width - length % block) % block) 0

/-- The words of `width` bits in a block, most significant octet first. -/
def words (width : Nat) (block : Bytes) : List (BitVec width) :=
  (runs (width / 8) block).map fun run => BitVec.ofNat width (Bytes.toNat run)

/-- The words of `width` bits in a block, least significant octet first. -/
def wordsLE (width : Nat) (block : Bytes) : List (BitVec width) :=
  (runs (width / 8) block).map fun run => BitVec.ofNat width (Bytes.toNatLE run)

/-! ### Constants from roots -/

/-- The greatest `r` below `2 ^ bits` with `r ^ k ≤ n`, found bit by bit. -/
def rootBelow (k n : Nat) : Nat → Nat → Nat
  | 0, r => r
  | bit + 1, r => rootBelow k n bit (if (r + 2 ^ bit) ^ k ≤ n then r + 2 ^ bit else r)

/-- The first `bits` bits of the fractional part of the `k`-th root of `n`, for `n`
below `2 ^ 12`. -/
def fractionBits (k bits n : Nat) : Nat :=
  rootBelow k (n <<< (k * bits)) (bits + 12) 0 % (1 <<< bits)

/-- The first `count` primes. -/
def primes (count : Nat) : List Nat :=
  ((List.range 512).filter fun n =>
    2 ≤ n && (List.range n).all fun d => d < 2 || n % d != 0).take count

end Digest
end CertChain
