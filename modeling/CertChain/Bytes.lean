/-!
# Octet strings

A certificate, a key, a signature and a file are all strings of octets. They are
held as lists, so that readers and writers recurse on the data itself, and this
file gives the few operations that every format shares:

* `Bytes.toNat` and `Bytes.ofNat` pass between octets and the number they spell,
  most significant octet first; `toNatLE` and `ofNatLE` do the same with the least
  significant octet first;
* `Bytes.hex` writes octets as lower-case hexadecimal digits;
* `Bytes.ofText` is the UTF-8 form of a text.
-/

namespace CertChain

/-- A string of octets, in order. -/
abbrev Bytes := List UInt8

namespace Bytes

/-! ### Octets and numbers -/

/-- The number that `bytes` spells, most significant octet first. -/
def toNat (bytes : Bytes) : Nat :=
  bytes.foldl (fun n b => 256 * n + b.toNat) 0

/-- The last `width` octets of `n`, most significant first. -/
def ofNat : Nat → Nat → Bytes
  | 0, _ => []
  | width + 1, n => UInt8.ofNat (n >>> (8 * width)) :: ofNat width n

/-- The number that `bytes` spells, least significant octet first. -/
def toNatLE (bytes : Bytes) : Nat :=
  toNat bytes.reverse

/-- The last `width` octets of `n`, least significant first. -/
def ofNatLE (width n : Nat) : Bytes :=
  (ofNat width n).reverse

/-- **A number's own width.** How many octets `n` needs; zero needs none. -/
def widthOf (n : Nat) : Nat :=
  if n = 0 then 0 else n.log2 / 8 + 1

/-! ### Octets and text -/

/-- The lower-case hexadecimal digit of `n`, for `n` below sixteen. -/
def hexDigit (n : Nat) : Char :=
  if n < 10 then Char.ofNat (48 + n) else Char.ofNat (87 + n)

/-- The two hexadecimal digits of an octet. -/
def hexPair (b : UInt8) : List Char :=
  [hexDigit (b.toNat / 16), hexDigit (b.toNat % 16)]

/-- Lower-case hexadecimal, two digits an octet. -/
def hex (bytes : Bytes) : String :=
  String.ofList (bytes.flatMap hexPair)

/-- The UTF-8 form of a text. -/
def ofText (text : String) : Bytes :=
  text.toList.flatMap String.utf8EncodeChar

@[simp] theorem length_ofNat (width n : Nat) : (ofNat width n).length = width := by
  induction width with
  | zero => rfl
  | succ width ih => simp [ofNat, ih]

end Bytes

/-- The number `n` in lower-case hexadecimal, without leading zeros. -/
def hexOfNat (n : Nat) : String :=
  String.ofList (Nat.toDigits 16 n)

end CertChain
