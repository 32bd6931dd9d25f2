import CertChain.Digest.Blocks

/-!
# SHA-2

One design in two sizes: words of 32 bits with 64 rounds, and words of 64 bits with
80. A `Family` holds what differs. The round constants are the first bits of the
fractional parts of the cube roots of the first primes. The starting values are those
of the square roots of the first eight primes, and for the two shortened digests those
of the next eight; the smaller of the two takes their second 32 bits.
-/

namespace CertChain
namespace Digest
namespace Sha2

/-- Three amounts to rotate by; the third one may also be a shift. -/
structure Amounts where
  first : Nat
  second : Nat
  third : Nat

/-- What one of the two sizes is made of: words of `width` bits, the round constants,
and the amounts of rotation in the rounds (`high`, `low`) and in the schedule (`early`,
`late`). -/
structure Family (width : Nat) where
  constants : List (BitVec width)
  high : Amounts
  low : Amounts
  early : Amounts
  late : Amounts

variable {width : Nat}

/-- The exclusive sum of three rotations. -/
def Amounts.rotate (r : Amounts) (x : BitVec width) : BitVec width :=
  x.rotateRight r.first ^^^ x.rotateRight r.second ^^^ x.rotateRight r.third

/-- The exclusive sum of two rotations and a shift. -/
def Amounts.shift (r : Amounts) (x : BitVec width) : BitVec width :=
  x.rotateRight r.first ^^^ x.rotateRight r.second ^^^ x >>> r.third

/-- The chaining value. -/
structure State (width : Nat) where
  a : BitVec width
  b : BitVec width
  c : BitVec width
  d : BitVec width
  e : BitVec width
  f : BitVec width
  g : BitVec width
  h : BitVec width

namespace State

def ofList (ws : List (BitVec width)) : State width :=
  ⟨ws.getD 0 0, ws.getD 1 0, ws.getD 2 0, ws.getD 3 0,
    ws.getD 4 0, ws.getD 5 0, ws.getD 6 0, ws.getD 7 0⟩

def toList (s : State width) : List (BitVec width) :=
  [s.a, s.b, s.c, s.d, s.e, s.f, s.g, s.h]

end State

/-- The next word of the schedule: `window` holds the last sixteen, oldest first. -/
def nextWord (family : Family width) (window : List (BitVec width)) : BitVec width :=
  family.late.shift (window.getD 14 0) + window.getD 9 0
    + family.early.shift (window.getD 1 0) + window.getD 0 0

/-- One round, with its constant: the oldest word of the window is used up, and a new
one follows. -/
def step (family : Family width) (s : State width × List (BitVec width))
    (constant : BitVec width) : State width × List (BitVec width) :=
  let (⟨a, b, c, d, e, f, g, h⟩, window) := s
  let choice := (e &&& f) ^^^ (~~~e &&& g)
  let majority := (a &&& b) ^^^ (a &&& c) ^^^ (b &&& c)
  let t := h + family.low.rotate e + choice + constant + window.headD 0
  (⟨t + family.high.rotate a + majority, a, b, c, d + t, e, f, g⟩,
    window.tail ++ [nextWord family window])

/-- The compression function. -/
def compress (family : Family width) (s : State width) (block : Bytes) : State width :=
  let t := (family.constants.foldl (step family) (s, words width block)).1
  .ofList (List.zipWith (· + ·) s.toList t.toList)

/-- The last chaining value, as octets. A block has sixteen words and the length is
two words long. -/
def run (family : Family width) (start : State width) (message : Bytes) : Bytes :=
  let padded := message ++ padding (2 * width) (width / 4) message.length
    ++ Bytes.ofNat (width / 4) (8 * message.length)
  let s := (runs (2 * width) padded).foldl (compress family) start
  s.toList.flatMap fun w => Bytes.ofNat (width / 8) w.toNat

/-! ### The two sizes -/

def small : Family 32 where
  constants := (primes 64).map fun p => BitVec.ofNat 32 (fractionBits 3 32 p)
  high := ⟨2, 13, 22⟩
  low := ⟨6, 11, 25⟩
  early := ⟨7, 18, 3⟩
  late := ⟨17, 19, 10⟩

def large : Family 64 where
  constants := (primes 80).map fun p => BitVec.ofNat 64 (fractionBits 3 64 p)
  high := ⟨28, 34, 39⟩
  low := ⟨14, 18, 41⟩
  early := ⟨1, 8, 7⟩
  late := ⟨19, 61, 6⟩

def start224 : State 32 :=
  .ofList (((primes 16).drop 8).map fun p => BitVec.ofNat 32 (fractionBits 2 64 p))

def start256 : State 32 :=
  .ofList ((primes 8).map fun p => BitVec.ofNat 32 (fractionBits 2 32 p))

def start384 : State 64 :=
  .ofList (((primes 16).drop 8).map fun p => BitVec.ofNat 64 (fractionBits 2 64 p))

def start512 : State 64 :=
  .ofList ((primes 8).map fun p => BitVec.ofNat 64 (fractionBits 2 64 p))

/-- **The digests**: the last chaining value, or its first octets. -/
def digest224 (message : Bytes) : Bytes := (run small start224 message).take 28
def digest256 (message : Bytes) : Bytes := run small start256 message
def digest384 (message : Bytes) : Bytes := (run large start384 message).take 48
def digest512 (message : Bytes) : Bytes := run large start512 message

end Sha2
end Digest
end CertChain
