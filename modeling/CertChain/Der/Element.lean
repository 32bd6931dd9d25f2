import CertChain.Bytes

/-!
# The distinguished encoding

A DER object is an element: identifier octets, which say what it is, length octets,
and that many contents octets. The encoding is *distinguished*: the identifier and
the length are written in the shortest way and in no other, so an element has one
written form. `Element.read` refuses every other spelling, and `Element.write` gives
the octets back.

Elements are read off the front of an octet string. A `Reader` does so and hands on
what is left; `within` runs a reader on the contents of an element and insists that
nothing is left over. Contents that are a run of elements are taken apart by
`elements`.
-/

namespace CertChain
namespace Der

/-- Why octets are not the DER form of what was looked for. -/
inductive Error where
  /-- The input ends inside an element, or before one that is due. -/
  | truncated
  /-- The identifier octets are not in shortest form. -/
  | badIdentifier
  /-- The length octets are not in shortest form, or too many. -/
  | badLength
  /-- An element of another kind was due. -/
  | unexpectedElement
  /-- Octets are left over. -/
  | trailingData
  /-- The contents do not spell a value of the kind. -/
  | badValue
  /-- The version number is none that certificates bear. -/
  | badVersion
  deriving DecidableEq, Repr

/-- The words for an error. That there is an error is what the encoding rules say; how it is worded
is left to the reader of the encoding, and these are the words of this one. -/
def Error.text : Error → String
  | .truncated => "the encoding ends too early"
  | .badIdentifier => "an identifier is not in shortest form"
  | .badLength => "a length is not in shortest form"
  | .unexpectedElement => "an element of another kind was expected"
  | .trailingData => "octets are left over"
  | .badValue => "the contents are no value of their kind"
  | .badVersion => "the version is not one of certificates"

/-- A reader takes what it wants off the front of its input. -/
abbrev Reader := StateT Bytes (Except Error)

/-! ### Identifiers -/

/-- The kind of a truth value. The definitions below name the other kinds that
certificates are made of, each by its identifier octet. -/
def booleanTag : UInt8 := 0x01
def integerTag : UInt8 := 0x02
def bitStringTag : UInt8 := 0x03
def octetStringTag : UInt8 := 0x04
def nullTag : UInt8 := 0x05
def oidTag : UInt8 := 0x06
def utcTimeTag : UInt8 := 0x17
def generalizedTimeTag : UInt8 := 0x18
def sequenceTag : UInt8 := 0x30
def setTag : UInt8 := 0x31

/-- The identifier of a constructed element that the context numbers `n`. -/
def contextTag (n : UInt8) : UInt8 := 0xA0 + n

/-- The identifier of a primitive element that the context numbers `n`. -/
def primitiveContextTag (n : UInt8) : UInt8 := 0x80 + n

/-- The octets of a number in base 128 at the front of the input: all but the last
have their top bit set. -/
def takeBase128 : Bytes → Option (Bytes × Bytes)
  | [] => none
  | b :: rest =>
    if b < 0x80 then some ([b], rest)
    else (takeBase128 rest).map fun (digits, rest) => (b :: digits, rest)

/-- The number that base-128 octets spell. -/
def base128 (digits : Bytes) : Nat :=
  digits.foldl (fun n b => 128 * n + b.toNat % 128) 0

/-- The largest tag number, plus one. -/
def tagLimit : Nat := 1 <<< 32

/-- **Identifier octets.** One octet, unless its five low bits are all ones: then the
tag number follows in base 128, which must be shortest and needed. -/
def takeIdentifier : Bytes → Except Error (Bytes × Bytes)
  | [] => .error .truncated
  | lead :: rest =>
    if lead &&& 0x1F ≠ 0x1F then .ok ([lead], rest)
    else
      match takeBase128 rest with
      | none => .error .badIdentifier
      | some (digits, rest) =>
        if digits.head? = some 0x80 ∨ base128 digits < 0x1F ∨ tagLimit ≤ base128 digits then
          .error .badIdentifier
        else .ok (lead :: digits, rest)

/-! ### Lengths -/

/-- **Length octets**: the length itself below 128, else the count of the octets that
spell it, at most four, and those octets. -/
def writeLength (n : Nat) : Bytes :=
  if n < 0x80 then [UInt8.ofNat n]
  else UInt8.ofNat (0x80 + Bytes.widthOf n) :: Bytes.ofNat (Bytes.widthOf n) n

/-- The length at the front of the input. -/
def takeLength : Bytes → Except Error (Nat × Bytes)
  | [] => .error .truncated
  | lead :: rest =>
    if lead < 0x80 then .ok (lead.toNat, rest)
    else
      let width := lead.toNat - 0x80
      if width = 0 ∨ 4 < width then .error .badLength
      else if rest.length < width then .error .truncated
      else
        let n := Bytes.toNat (rest.take width)
        if n < 0x80 ∨ n < 1 <<< (8 * (width - 1)) then .error .badLength
        else .ok (n, rest.drop width)

/-! ### Elements -/

/-- An element: its identifier octets and its contents. -/
structure Element where
  identifier : Bytes
  contents : Bytes
  deriving DecidableEq, Repr

namespace Element

/-- The element with a one-octet identifier. -/
def make (tag : UInt8) (contents : Bytes) : Element :=
  ⟨[tag], contents⟩

/-- **The written form.** -/
def write (e : Element) : Bytes :=
  e.identifier ++ writeLength e.contents.length ++ e.contents

/-- Whether the element is of the kind `tag`. -/
def hasTag (e : Element) (tag : UInt8) : Bool :=
  e.identifier == [tag]

/-- The element at the front of the input, and what comes after it. -/
def read (input : Bytes) : Except Error (Element × Bytes) := do
  let (identifier, rest) ← takeIdentifier input
  let (length, rest) ← takeLength rest
  if rest.length < length then throw .truncated
  return (⟨identifier, rest.take length⟩, rest.drop length)

end Element

/-! ### Reading makes progress -/

theorem length_lt_of_takeBase128 {input digits rest : Bytes}
    (h : takeBase128 input = some (digits, rest)) : rest.length < input.length := by
  induction input generalizing digits with
  | nil => simp [takeBase128] at h
  | cons b tail ih =>
    rw [takeBase128] at h
    split at h
    · cases h; simp
    · obtain ⟨⟨d, r⟩, hr, he⟩ := Option.map_eq_some_iff.mp h
      cases he
      exact Nat.lt_succ_of_lt (ih hr)

theorem length_lt_of_takeIdentifier {input identifier rest : Bytes}
    (h : takeIdentifier input = .ok (identifier, rest)) : rest.length < input.length := by
  cases input with
  | nil => cases h
  | cons lead tail =>
    rw [takeIdentifier] at h
    split at h
    · cases h; simp
    · split at h
      · cases h
      · rename_i hd
        split at h
        · cases h
        · cases h
          exact Nat.lt_succ_of_lt (length_lt_of_takeBase128 hd)

theorem length_lt_of_takeLength {input rest : Bytes} {n : Nat}
    (h : takeLength input = .ok (n, rest)) : rest.length < input.length := by
  cases input with
  | nil => cases h
  | cons lead tail =>
    simp only [takeLength] at h
    split at h
    · cases h; simp
    · split at h
      · cases h
      · split at h
        · cases h
        · split at h
          · cases h
          · simp only [Except.ok.injEq, Prod.mk.injEq] at h
            rw [← h.2]
            simp only [List.length_drop, List.length_cons]
            omega

theorem Element.length_lt_of_read {input rest : Bytes} {e : Element}
    (h : Element.read input = .ok (e, rest)) : rest.length < input.length := by
  unfold Element.read at h
  cases hi : takeIdentifier input with
  | error e => rw [hi] at h; cases h
  | ok i =>
    obtain ⟨identifier, afterIdentifier⟩ := i
    rw [hi] at h
    cases hl : takeLength afterIdentifier with
    | error e =>
      simp only [bind, Except.bind, hl] at h
      cases h
    | ok l =>
      obtain ⟨length, afterLength⟩ := l
      simp only [bind, Except.bind, hl] at h
      split at h
      · cases h
      · cases h
        have h₁ := length_lt_of_takeIdentifier hi
        have h₂ := length_lt_of_takeLength hl
        simp only [List.length_drop]
        omega

/-! ### Readers -/

/-- **All elements** of an octet string that is a run of them. -/
def elements (input : Bytes) : Except Error (List Element) :=
  if input.isEmpty then .ok []
  else
    match h : Element.read input with
    | .error e => .error e
    | .ok (e, rest) =>
      have := Element.length_lt_of_read h
      (elements rest).map (e :: ·)
termination_by input.length

/-- Runs `reader` on `input` and insists that it takes all of it. -/
def within (reader : Reader α) (input : Bytes) : Except Error α := do
  let (value, rest) ← reader.run input
  if rest.isEmpty then return value else throw .trailingData

/-- The next element, whatever it is. -/
def anyElement : Reader Element :=
  fun input => Element.read input

/-- The contents of the next element, which must be of the kind `tag`. -/
def expect (tag : UInt8) : Reader Bytes := do
  let e ← anyElement
  if e.hasTag tag then return e.contents else throw .unexpectedElement

/-- Whether the next element claims to be of the kind `tag`. Nothing is taken. -/
def nextHasTag (tag : UInt8) : Reader Bool := do
  return (← get).head? = some tag

/-- What `reader` takes if the next element is of the kind `tag`; otherwise nothing is
taken. -/
def whenNext (tag : UInt8) (reader : Reader α) : Reader (Option α) := do
  if ← nextHasTag tag then some <$> reader else return none

/-- The contents of the next element if it is of the kind `tag`. -/
def optional (tag : UInt8) : Reader (Option Bytes) :=
  whenNext tag (expect tag)

/-- The contents of the next element, which must be `size` octets. -/
def octetsOfSize (size : Nat) : Reader Bytes := do
  let octets ← expect octetStringTag
  if octets.length = size then return octets else throw .badValue

/-- The next element if there is one. -/
def optionalElement : Reader (Option Element) := do
  if (← get).isEmpty then return none else some <$> anyElement

/-- A sequence whose contents `reader` takes. -/
def sequence (reader : Reader α) : Reader α := do
  within reader (← expect sequenceTag)

/-- A sequence whose elements are all of the kind `tag`, each read by `reader`. -/
def sequenceOf (tag : UInt8) (reader : Bytes → Except Error α) (contents : Bytes) :
    Except Error (List α) := do
  (← elements contents).mapM fun e =>
    if e.hasTag tag then reader e.contents else throw .unexpectedElement

/-- A sequence's written form. -/
def writeSequence (contents : Bytes) : Bytes :=
  (Element.make sequenceTag contents).write

end Der
end CertChain
