import CertChain.Der.Element

/-!
# Primitive values

The values that a certificate holds besides names and algorithms: whole numbers, bit
strings, truth values and points in time. Each is held by its contents octets once
they have been found to be the one right spelling of a value, so that writing gives
back what was read.

* `Integer`: shortest two's complement; `Integer.natural?` is the number if it is not
  negative.
* `BitString`: the octets, and how many bits at the end of the last one are unused;
  unused bits are zero.
* `Time`: a day and a time of day that exist, in whole seconds and in universal time,
  written with two or with four digits for the year.
-/

namespace CertChain
namespace Der

/-! ### Whole numbers -/

/-- A whole number of any size, as its contents octets. -/
structure Integer where
  contents : Bytes
  deriving DecidableEq, Repr

namespace Integer

/-- **Shortest form**: some octet, and no first octet that only repeats the sign of
the second one. -/
def isShortest : Bytes → Bool
  | [] => false
  | [_] => true
  | a :: b :: _ => !(a == 0 && b < 0x80) && !(a == 0xFF && 0x80 ≤ b)

/-- Reads contents octets. -/
def ofContents (contents : Bytes) : Except Error Integer :=
  if isShortest contents then .ok ⟨contents⟩ else .error .badValue

/-- Whether the number is below zero. -/
def isNegative (n : Integer) : Bool :=
  match n.contents with
  | [] => false
  | a :: _ => 0x80 ≤ a

/-- The number, if it is not negative. -/
def natural? (n : Integer) : Option Nat :=
  if n.isNegative then none else some (Bytes.toNat n.contents)

/-- The integer at the front of the input. -/
def reader : Reader Integer := do
  ofContents (← expect integerTag)

/-- A number that is not negative, at the front of the input. -/
def naturalReader : Reader Nat := do
  match (← reader).natural? with
  | some n => return n
  | none => throw .badValue

/-- A number that is not negative and below `bound`, at the front of the input. -/
def boundedReader (bound : Nat) : Reader Nat := do
  let n ← naturalReader
  if n < bound then return n else throw .badValue

/-- A number that is not negative and below `bound`, if a whole number comes next. -/
def optionalReader (bound : Nat) : Reader (Option Nat) :=
  whenNext integerTag (boundedReader bound)

/-- The integer as an element. -/
def toElement (n : Integer) : Element :=
  .make integerTag n.contents

end Integer

/-! ### Bit strings -/

/-- Bits, in octets; the last `unused` bits of the last octet are no part of it. -/
structure BitString where
  unused : UInt8
  octets : Bytes
  deriving DecidableEq, Repr

namespace BitString

/-- Reads contents octets: the first one counts the unused bits, which are zero. -/
def ofContents : Bytes → Except Error BitString
  | [] => .error .badValue
  | unused :: octets =>
    if 7 < unused then .error .badValue
    else
      match octets.getLast? with
      | none => if unused = 0 then .ok ⟨unused, octets⟩ else .error .badValue
      | some last =>
        if last.toNat % (1 <<< unused.toNat) = 0 then .ok ⟨unused, octets⟩ else .error .badValue

/-- The contents octets. -/
def contents (bits : BitString) : Bytes :=
  bits.unused :: bits.octets

/-- The bit string at the front of the input. -/
def reader : Reader BitString := do
  ofContents (← expect bitStringTag)

/-- The bit string as an element. -/
def toElement (bits : BitString) : Element :=
  .make bitStringTag bits.contents

end BitString

/-! ### Truth values -/

/-- Reads the contents octets of a truth value: truth is all ones. -/
def booleanOfContents : Bytes → Except Error Bool
  | [b] => if b = 0xFF then .ok true else if b = 0 then .ok false else .error .badValue
  | _ => .error .badValue

/-! ### Points in time -/

/-- How a point in time is written. -/
inductive TimeForm where
  /-- The year has two digits, for the years 1950 to 2049. -/
  | twoDigit
  /-- The year has four digits. -/
  | fourDigit
  deriving DecidableEq, Repr

/-- The kind of the element that a form is written in. -/
def TimeForm.tag : TimeForm → UInt8
  | .twoDigit => utcTimeTag
  | .fourDigit => generalizedTimeTag

/-- How many digits a form has for the year. -/
def TimeForm.yearDigits : TimeForm → Nat
  | .twoDigit => 2
  | .fourDigit => 4

/-- A point in time, as the characters it is written with. -/
structure Time where
  form : TimeForm
  characters : Bytes
  deriving DecidableEq, Repr

/-- A year whose February has twenty-nine days. -/
def isLeapYear (year : Nat) : Bool :=
  year % 4 == 0 && (year % 100 != 0 || year % 400 == 0)

/-- The number of days of a month; no month beyond the twelfth has any. -/
def daysInMonth (year month : Nat) : Nat :=
  if month = 0 ∨ 12 < month then 0
  else if month = 2 then if isLeapYear year then 29 else 28
  else if month = 4 ∨ month = 6 ∨ month = 9 ∨ month = 11 then 30
  else 31

namespace Time

/-- The number that decimal digits spell. -/
def decimal? (digits : Bytes) : Option Nat :=
  if digits.all fun b => 0x30 ≤ b && b ≤ 0x39 then
    some (digits.foldl (fun n b => 10 * n + (b.toNat - 0x30)) 0)
  else none

/-- The numbers of two digits each that make up `characters`. -/
def pairs? : Bytes → Option (List Nat)
  | [] => some []
  | a :: b :: rest => do return (← decimal? [a, b]) :: (← pairs? rest)
  | [_] => none

/-- The full year of a written one. -/
def fullYear (form : TimeForm) (year : Nat) : Nat :=
  match form with
  | .fourDigit => year
  | .twoDigit => if 50 ≤ year then 1900 + year else 2000 + year

/-- **What is a point in time**: digits for year, month, day, hour, minute and second,
each in its range, and the letter `Z`. -/
def isValid (form : TimeForm) (characters : Bytes) : Bool :=
  match decimal? (characters.take form.yearDigits),
      pairs? (characters.drop form.yearDigits).dropLast with
  | some year, some [month, day, hour, minute, second] =>
    characters.getLast? == some 0x5A && 1 ≤ day
      && day ≤ daysInMonth (fullYear form year) month
      && hour < 24 && minute < 60 && second < 60
  | _, _ => false

/-- The point in time that an element holds. -/
def ofElement (e : Element) : Except Error Time :=
  let build (form : TimeForm) : Except Error Time :=
    if isValid form e.contents then .ok ⟨form, e.contents⟩ else .error .badValue
  if e.hasTag TimeForm.twoDigit.tag then build .twoDigit
  else if e.hasTag TimeForm.fourDigit.tag then build .fourDigit
  else .error .unexpectedElement

/-- The point in time at the front of the input. -/
def reader : Reader Time := do
  ofElement (← anyElement)

/-- The point in time as an element. -/
def toElement (time : Time) : Element :=
  .make time.form.tag time.characters

end Time
end Der
end CertChain
