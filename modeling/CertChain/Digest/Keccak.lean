import CertChain.Digest.Blocks

/-!
# Keccak: SHA-3 and SHAKE256

A sponge: the message is worked, block by block, into a state of 25 lanes of 64 bits,
and the digest is read off the state. Between blocks the state goes through 24 rounds
of one permutation. Its rotations and round constants follow rules of their own and
are computed from them: the rotations are the triangular numbers along a walk through
the lanes, the constants are the output bits of a shift register.

A digest's security level decides how much of the state a block may touch: its
`rate`, in octets.
-/

namespace CertChain
namespace Digest
namespace Keccak

abbrev Lane := BitVec 64

/-- The state: the lane at column `x` and row `y` has the index `x + 5 * y`. -/
abbrev State := Array Lane

/-- The lane at column `x` and row `y`, both modulo five. -/
def lane (s : State) (x y : Nat) : Lane :=
  s.getD (x % 5 + 5 * (y % 5)) 0

/-- The state whose lane at column `x` and row `y` is `f x y`. -/
def tabulate (f : Nat → Nat → Lane) : State :=
  Array.ofFn fun i : Fin 25 => f (i.val % 5) (i.val / 5)

/-! ### Constants -/

/-- The walk through all lanes but the first: from column `x` and row `y` it goes to
column `y` and row `2 x + 3 y`. Step `t` sets the rotation of the lane it is on. -/
def walk : Nat → Nat × Nat → Array Nat → Array Nat
  | 0, _, table => table
  | left + 1, (x, y), table =>
    let t := 24 - (left + 1)
    walk left (y, (2 * x + 3 * y) % 5) (table.setIfInBounds (x + 5 * y) ((t + 1) * (t + 2) / 2))

/-- How far each lane is rotated. -/
def rotations : Array Nat :=
  walk 24 (1, 0) (Array.replicate 25 0)

/-- One step of the shift register. -/
def register (r : Nat) : Nat :=
  if r < 0x80 then 2 * r else (2 * r) ^^^ 0x171

/-- The round constants, and the register after `count` of them: a constant has the
next seven output bits at the places 0, 1, 3, 7, 15, 31 and 63. -/
def constantsFrom : Nat → Nat → List Lane
  | 0, _ => []
  | count + 1, r =>
    let (constant, r) := (List.range 7).foldl (fun (constant, r) j =>
      (if r % 2 = 1 then constant ||| 1 <<< (2 ^ j - 1) else constant, register r)) ((0 : Lane), r)
    constant :: constantsFrom count r

/-- The constants of the 24 rounds. -/
def constants : List Lane :=
  constantsFrom 24 1

/-! ### The permutation -/

/-- One round: every column is mixed with its neighbours, the lanes are rotated and
moved, every row is mixed, and a constant is added to the first lane. -/
def round (s : State) (constant : Lane) : State :=
  let columns := Array.ofFn fun x : Fin 5 =>
    lane s x 0 ^^^ lane s x 1 ^^^ lane s x 2 ^^^ lane s x 3 ^^^ lane s x 4
  let effects := Array.ofFn fun x : Fin 5 =>
    columns.getD ((x.val + 4) % 5) 0 ^^^ (columns.getD ((x.val + 1) % 5) 0).rotateLeft 1
  let moved := tabulate fun x y =>
    let from_ := (x + 3 * y) % 5
    (lane s from_ x ^^^ effects.getD from_ 0).rotateLeft (rotations.getD (from_ + 5 * x) 0)
  let mixed := tabulate fun x y =>
    lane moved x y ^^^ (~~~lane moved (x + 1) y &&& lane moved (x + 2) y)
  mixed.modify 0 (· ^^^ constant)

/-- The permutation. -/
def permute (s : State) : State :=
  constants.foldl round s

/-! ### The sponge -/

/-- Works a block into the state. -/
def absorb (s : State) (block : Bytes) : State :=
  let lanes := (wordsLE 64 block).toArray
  permute (tabulate fun x y => lane s x y ^^^ lanes.getD (x + 5 * y) 0)

/-- The state as octets. -/
def octets (s : State) : Bytes :=
  s.toList.flatMap fun l => Bytes.ofNatLE 8 l.toNat

/-- What the sponge gives after `blocks` more blocks. -/
def squeeze (rate : Nat) : Nat → State → Bytes
  | 0, _ => []
  | blocks + 1, s => (octets s).take rate ++ squeeze rate blocks (permute s)

/-- The padding of a message: the octet `domain`, zeros, and a one bit at the very
end of the block. -/
def pad (rate : Nat) (domain : UInt8) (message : Bytes) : Bytes :=
  let room := rate - message.length % rate
  if room = 1 then message ++ [domain ||| 0x80]
  else message ++ domain :: List.replicate (room - 2) 0 ++ [0x80]

/-- The first `length` octets that the sponge gives for a message. -/
def sponge (rate : Nat) (domain : UInt8) (length : Nat) (message : Bytes) : Bytes :=
  let s := (runs rate (pad rate domain message)).foldl absorb (Array.replicate 25 0)
  (squeeze rate (length / rate + 1) s).take length

/-- **The fixed-length digest** of `length` octets. -/
def digest (length : Nat) (message : Bytes) : Bytes :=
  sponge (200 - 2 * length) 0x06 length message

/-- **The digest of any length**, at the higher of its two levels. -/
def shake256 (length : Nat) (message : Bytes) : Bytes :=
  sponge 136 0x1F length message

end Keccak
end Digest
end CertChain
