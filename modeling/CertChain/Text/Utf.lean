import CertChain.Bytes

/-!
# Unicode encoding forms

Texts reach the program as octets in three encoding forms: UTF-8 (files and most
of the strings in a certificate's names), UTF-16 and UTF-32, both most
significant octet first (two string types of names). Every decoder here is
strict: an octet string is a text in at most one way, and everything else is
refused.

* `Utf8.decode` reads UTF-8 and says, when it fails, which octets are at fault and
  why (`Utf8.Fault`): a wrong octet is reported alone, a character that breaks off
  is reported with the octets of it that were right.
* `Utf8.decode?`, `Utf16.decode?` and `Utf32.decode?` are the plain yes-or-no forms.
-/

namespace CertChain

/-! ### UTF-8 -/

namespace Utf8

/-- Why an octet string is no UTF-8. -/
inductive Reason where
  /-- No character starts with this octet. -/
  | start
  /-- A continuation octet was due and another one stands there. -/
  | continuation
  /-- The input ends inside a character. -/
  | ended
  deriving DecidableEq, Repr

/-- Where decoding stopped: the octets from `position` on, `length` of them, are at
fault, and `first` is the first of them. -/
structure Fault where
  position : Nat
  length : Nat
  first : UInt8
  reason : Reason
  deriving DecidableEq, Repr

/-- An octet that may stand after the first of a character. -/
def isContinuation (b : UInt8) : Bool :=
  0x80 ≤ b && b < 0xC0

/-- The six bits a continuation octet carries. -/
def payload (b : UInt8) : Nat :=
  b.toNat % 64

/-- **The second octet of a long character.** Besides being a continuation octet it
must not spell a character that has a shorter form, a surrogate, or a number
beyond the last code point. -/
def isSecond (lead b : UInt8) : Bool :=
  isContinuation b &&
    !(lead == 0xE0 && b < 0xA0) && !(lead == 0xED && 0xA0 ≤ b) &&
    !(lead == 0xF0 && b < 0x90) && !(lead == 0xF4 && 0x90 ≤ b)

/-- Decodes the octets from `position` on; `done` holds the characters before them,
last first. -/
def decodeFrom (position : Nat) (done : List Char) : Bytes → Except Fault (List Char)
  | [] => .ok done.reverse
  | a :: rest =>
    let fail (length : Nat) (reason : Reason) : Except Fault (List Char) :=
      .error ⟨position, length, a, reason⟩
    if a < 0x80 then decodeFrom (position + 1) (Char.ofNat a.toNat :: done) rest
    else if a < 0xC2 || 0xF5 ≤ a then fail 1 .start
    else if a < 0xE0 then
      match rest with
      | [] => fail 1 .ended
      | b :: rest =>
        if isContinuation b then
          decodeFrom (position + 2) (Char.ofNat (a.toNat % 32 * 64 + payload b) :: done) rest
        else fail 1 .continuation
    else if a < 0xF0 then
      match rest with
      | [] => fail 1 .ended
      | b :: rest =>
        if isSecond a b then
          match rest with
          | [] => fail 2 .ended
          | c :: rest =>
            if isContinuation c then
              decodeFrom (position + 3)
                (Char.ofNat ((a.toNat % 16 * 64 + payload b) * 64 + payload c) :: done) rest
            else fail 2 .continuation
        else fail 1 .continuation
    else
      match rest with
      | [] => fail 1 .ended
      | b :: rest =>
        if isSecond a b then
          match rest with
          | [] => fail 2 .ended
          | c :: rest =>
            if isContinuation c then
              match rest with
              | [] => fail 3 .ended
              | d :: rest =>
                if isContinuation d then
                  decodeFrom (position + 4)
                    (Char.ofNat (((a.toNat % 8 * 64 + payload b) * 64 + payload c) * 64
                      + payload d) :: done) rest
                else fail 3 .continuation
            else fail 2 .continuation
        else fail 1 .continuation

/-- Reads UTF-8, or says where it breaks. -/
def decode (bytes : Bytes) : Except Fault String :=
  (decodeFrom 0 [] bytes).map String.ofList

/-- Reads UTF-8. -/
def decode? (bytes : Bytes) : Option String :=
  (decode bytes).toOption

/-- The words for a reason. -/
def Reason.text : Reason → String
  | .start => "invalid start byte"
  | .continuation => "invalid continuation byte"
  | .ended => "unexpected end of data"

/-- **The report of a fault**: one octet is shown with its value, several by their
positions. -/
def Fault.text (fault : Fault) : String :=
  let place :=
    if fault.length = 1 then
      "byte 0x" ++ Bytes.hex [fault.first] ++ " in position " ++ toString fault.position
    else
      "bytes in position " ++ toString fault.position ++ "-"
        ++ toString (fault.position + fault.length - 1)
  "'utf-8' codec can't decode " ++ place ++ ": " ++ fault.reason.text

end Utf8

/-! ### Sixteen and thirty-two bits -/

/-- The character with number `n`, when there is one: surrogates have none. -/
def charOfNat? (n : Nat) : Option Char :=
  if n.isValidChar then some (Char.ofNat n) else none

/-- The characters that a list of sixteen-bit units spells; a surrogate counts only
as half of a pair. -/
def Utf16.ofUnits? : List Nat → Option (List Char)
  | [] => some []
  | u :: rest =>
    if 0xD800 ≤ u && u < 0xDC00 then
      match rest with
      | v :: rest =>
        if 0xDC00 ≤ v && v < 0xE000 then do
          let c ← charOfNat? (0x10000 + (u - 0xD800) * 0x400 + (v - 0xDC00))
          return c :: (← Utf16.ofUnits? rest)
        else none
      | [] => none
    else do
      let c ← charOfNat? u
      return c :: (← Utf16.ofUnits? rest)

/-- The sixteen-bit units of an octet string of even length. -/
def Utf16.units? : Bytes → Option (List Nat)
  | [] => some []
  | a :: b :: rest => (Utf16.units? rest).map ((a.toNat * 256 + b.toNat) :: ·)
  | [_] => none

/-- Reads UTF-16, most significant octet first. -/
def Utf16.decode? (bytes : Bytes) : Option String := do
  return String.ofList (← Utf16.ofUnits? (← Utf16.units? bytes))

/-- The characters of an octet string, four octets each. -/
def Utf32.chars? : Bytes → Option (List Char)
  | [] => some []
  | a :: b :: c :: d :: rest => do
    let first ← charOfNat? (((a.toNat * 256 + b.toNat) * 256 + c.toNat) * 256 + d.toNat)
    return first :: (← Utf32.chars? rest)
  | _ => none

/-- Reads UTF-32, most significant octet first. -/
def Utf32.decode? (bytes : Bytes) : Option String :=
  (Utf32.chars? bytes).map String.ofList

end CertChain
