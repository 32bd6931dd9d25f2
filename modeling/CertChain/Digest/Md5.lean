import CertChain.Digest.Blocks

/-!
# MD5

A digest of 128 bits, found under old signatures only. The state is four words of 32
bits, least significant octet first; each of the 16 words of a block is used four
times, each time in another order.
-/

namespace CertChain
namespace Digest
namespace Md5

abbrev Word := BitVec 32

/-- The chaining value. -/
structure State where
  a : Word
  b : Word
  c : Word
  d : Word

def start : State :=
  ⟨0x67452301, 0xEFCDAB89, 0x98BADCFE, 0x10325476⟩

/-- The constants: the first 32 bits of the fractional parts of `|sin 1|`, …,
`|sin 64|`. -/
def constants : Array Word := #[
  0xD76AA478, 0xE8C7B756, 0x242070DB, 0xC1BDCEEE, 0xF57C0FAF, 0x4787C62A, 0xA8304613,
  0xFD469501, 0x698098D8, 0x8B44F7AF, 0xFFFF5BB1, 0x895CD7BE, 0x6B901122, 0xFD987193,
  0xA679438E, 0x49B40821, 0xF61E2562, 0xC040B340, 0x265E5A51, 0xE9B6C7AA, 0xD62F105D,
  0x02441453, 0xD8A1E681, 0xE7D3FBC8, 0x21E1CDE6, 0xC33707D6, 0xF4D50D87, 0x455A14ED,
  0xA9E3E905, 0xFCEFA3F8, 0x676F02D9, 0x8D2A4C8A, 0xFFFA3942, 0x8771F681, 0x6D9D6122,
  0xFDE5380C, 0xA4BEEA44, 0x4BDECFA9, 0xF6BB4B60, 0xBEBFBC70, 0x289B7EC6, 0xEAA127FA,
  0xD4EF3085, 0x04881D05, 0xD9D4D039, 0xE6DB99E5, 0x1FA27CF8, 0xC4AC5665, 0xF4292244,
  0x432AFF97, 0xAB9423A7, 0xFC93A039, 0x655B59C3, 0x8F0CCC92, 0xFFEFF47D, 0x85845DD1,
  0x6FA87E4F, 0xFE2CE6E0, 0xA3014314, 0x4E0811A1, 0xF7537E82, 0xBD3AF235, 0x2AD7D2BB,
  0xEB86D391]

/-- The rotations of the four passes, each a cycle of four. -/
def rotations : Array (Array Nat) :=
  #[#[7, 12, 17, 22], #[5, 9, 14, 20], #[4, 11, 16, 23], #[6, 10, 15, 21]]

/-- The rule of round `t`, and which word of the block it uses. -/
def mix (t : Nat) (b c d : Word) : Word × Nat :=
  if t < 16 then ((b &&& c) ||| (~~~b &&& d), t)
  else if t < 32 then ((d &&& b) ||| (~~~d &&& c), (5 * t + 1) % 16)
  else if t < 48 then (b ^^^ c ^^^ d, (3 * t + 5) % 16)
  else (c ^^^ (b ||| ~~~d), 7 * t % 16)

/-- One round. -/
def step (block : List Word) (s : State) (t : Nat) : State :=
  let (mixed, index) := mix t s.b s.c s.d
  let sum := s.a + mixed + constants.getD t 0 + block.getD index 0
  let rotation := (rotations.getD (t / 16) #[]).getD (t % 4) 0
  ⟨s.d, s.b + sum.rotateLeft rotation, s.b, s.c⟩

/-- The compression function. -/
def compress (s : State) (block : Bytes) : State :=
  let t := (List.range 64).foldl (step (wordsLE 32 block)) s
  ⟨s.a + t.a, s.b + t.b, s.c + t.c, s.d + t.d⟩

/-- **The digest** of a message: 16 octets. -/
def digest (message : Bytes) : Bytes :=
  let padded := message ++ padding 64 8 message.length ++ Bytes.ofNatLE 8 (8 * message.length)
  let s := (runs 64 padded).foldl compress start
  [s.a, s.b, s.c, s.d].flatMap fun w => Bytes.ofNatLE 4 w.toNat

end Md5
end Digest
end CertChain
