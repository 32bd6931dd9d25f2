import CertChain.Digest.Blocks

/-!
# SHA-1

A digest of 160 bits. The state is five words of 32 bits; a block of 16 words is
stretched to 80, and each of them is worked into the state by one of four rules.
-/

namespace CertChain
namespace Digest
namespace Sha1

abbrev Word := BitVec 32

/-- The chaining value. -/
structure State where
  a : Word
  b : Word
  c : Word
  d : Word
  e : Word

def start : State :=
  ⟨0x67452301, 0xEFCDAB89, 0x98BADCFE, 0x10325476, 0xC3D2E1F0⟩

/-- The next word of the schedule: `window` holds the last sixteen, oldest first. -/
def nextWord (window : List Word) : Word :=
  (window.getD 13 0 ^^^ window.getD 8 0 ^^^ window.getD 2 0 ^^^ window.getD 0 0).rotateLeft 1

/-- The choice, parity or majority of round `t`, and its constant. -/
def mix (t : Nat) (b c d : Word) : Word :=
  if t < 20 then ((b &&& c) ||| (~~~b &&& d)) + 0x5A827999
  else if t < 40 then (b ^^^ c ^^^ d) + 0x6ED9EBA1
  else if t < 60 then ((b &&& c) ||| (b &&& d) ||| (c &&& d)) + 0x8F1BBCDC
  else (b ^^^ c ^^^ d) + 0xCA62C1D6

/-- One round: the oldest word of the window is used up, and a new one follows. -/
def step (s : State × List Word) (t : Nat) : State × List Word :=
  let (⟨a, b, c, d, e⟩, window) := s
  (⟨a.rotateLeft 5 + mix t b c d + e + window.headD 0, a, b.rotateLeft 30, c, d⟩,
    window.tail ++ [nextWord window])

/-- The compression function. -/
def compress (s : State) (block : Bytes) : State :=
  let t := ((List.range 80).foldl step (s, words 32 block)).1
  ⟨s.a + t.a, s.b + t.b, s.c + t.c, s.d + t.d, s.e + t.e⟩

/-- **The digest** of a message: 20 octets. -/
def digest (message : Bytes) : Bytes :=
  let padded := message ++ padding 64 8 message.length ++ Bytes.ofNat 8 (8 * message.length)
  let s := (runs 64 padded).foldl compress start
  [s.a, s.b, s.c, s.d, s.e].flatMap fun w => Bytes.ofNat 4 w.toNat

end Sha1
end Digest
end CertChain
