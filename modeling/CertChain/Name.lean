import CertChain.Oid
import CertChain.Text.Utf

/-!
# Distinguished names

A name is a sequence of relative names, from the most general to the most specific;
each of them is a set of attributes, an attribute's kind being an object identifier
and its value a string in one of a dozen string types.

Reading goes in two steps. `Name.reader` checks the outer form: the sets are in
ascending order of their members' octets, and the three string types with an
alphabet of their own keep to it. `Name.text?` then decodes the values and writes
the name as text; it fails when a value is in no string type, does not decode, when
a relative name is empty, or when it holds an attribute twice.

The text is that of RFC 4514: the most specific relative name first, commas between
relative names, plus signs between the attributes of one, and a backslash before
every character of a value that would otherwise be taken for punctuation. Line
breaks are not such characters and stand in the text as they are.
-/

namespace CertChain

/-- One attribute: its kind and the element that holds its value. -/
structure Attribute where
  kind : Oid
  value : Der.Element
  deriving DecidableEq, Repr

/-- A name: relative names, the most general one first. -/
structure Name where
  relativeNames : List (List Attribute)
  deriving DecidableEq, Repr

/-- A decoded attribute value: a text, or bits shown by their octets. -/
inductive AttributeValue where
  | text (characters : String)
  | bits (octets : Bytes)
  deriving DecidableEq, Repr

/-! ### String types -/

namespace StringType

def bitString : UInt8 := 0x03
def octetString : UInt8 := 0x04
def utf8 : UInt8 := 0x0C
def numeric : UInt8 := 0x12
def printable : UInt8 := 0x13
def teletex : UInt8 := 0x14
def ia5 : UInt8 := 0x16
def utcTime : UInt8 := 0x17
def generalizedTime : UInt8 := 0x18
def visible : UInt8 := 0x1A
def universal : UInt8 := 0x1C
def bmp : UInt8 := 0x1E

/-- The string types whose contents are read as UTF-8. -/
def readAsUtf8 : List UInt8 :=
  [octetString, utf8, numeric, printable, teletex, ia5, utcTime, generalizedTime, visible]

/-- The alphabet of the printable strings. -/
def isPrintableOctet (b : UInt8) : Bool :=
  (0x41 ≤ b && b ≤ 0x5A) || (0x61 ≤ b && b ≤ 0x7A) || (0x30 ≤ b && b ≤ 0x39)
    || (Bytes.ofText " '()+,-./:=?").contains b

/-- Whether an element that claims to be in one of the three string types with an
alphabet of their own keeps to it. Other elements always do. -/
def keepsAlphabet (e : Der.Element) : Bool :=
  if e.hasTag printable then e.contents.all isPrintableOctet
  else if e.hasTag universal then (Utf32.decode? e.contents).isSome
  else if e.hasTag bmp then (Utf16.decode? e.contents).isSome
  else true

end StringType

/-! ### Attributes -/

namespace Attribute

/-- The attribute whose contents octets these are. -/
def ofContents (contents : Bytes) : Except Der.Error Attribute :=
  Der.within (do
    let kind ← Oid.reader
    let value ← Der.anyElement
    if StringType.keepsAlphabet value then return ⟨kind, value⟩ else throw .badValue) contents

/-- The attribute as an element. -/
def toElement (a : Attribute) : Der.Element :=
  .make Der.sequenceTag (a.kind.toElement.write ++ a.value.write)

/-- The one kind of attribute whose value may be a bit string. -/
def uniqueIdentifier : Oid := .ofArcs [2, 5, 4, 45]

/-- **Decoding a value** by its string type. A bit string is taken octet for octet,
the count of unused bits included. -/
def decode? (a : Attribute) : Option AttributeValue :=
  match a.value.identifier with
  | [tag] =>
    if tag = StringType.bitString then
      if a.kind = uniqueIdentifier then some (.bits a.value.contents) else none
    else if tag = StringType.universal then (Utf32.decode? a.value.contents).map .text
    else if tag = StringType.bmp then (Utf16.decode? a.value.contents).map .text
    else if StringType.readAsUtf8.contains tag then (Utf8.decode? a.value.contents).map .text
    else none
  | _ => none

end Attribute

/-! ### Text -/

namespace AttributeValue

/-- The characters that stand behind a backslash wherever they occur. -/
def special : List Char := ['\\', '"', '+', ',', ';', '<', '>']

/-- One character of a value. -/
def escape (c : Char) : List Char :=
  if special.contains c then ['\\', c]
  else if c = '\x00' then ['\\', '0', '0']
  else [c]

/-- A backslash before the first character of a value, if that is a number sign, or a
blank with more behind it. -/
def guardFirst : List Char → List Char
  | '#' :: rest => '\\' :: '#' :: rest
  | ' ' :: c :: rest => '\\' :: ' ' :: c :: rest
  | cs => cs

/-- A backslash before the last character of a value, if that is a blank. -/
def guardLast (cs : List Char) : List Char :=
  if cs.getLast? = some ' ' then cs.dropLast ++ ['\\', ' '] else cs

/-- A value as text: characters with their escapes, or octets in hexadecimal. -/
def render : AttributeValue → String
  | .text characters =>
    String.ofList (guardLast (guardFirst (characters.toList.flatMap escape)))
  | .bits octets => if octets.isEmpty then "" else "#" ++ Bytes.hex octets

end AttributeValue

/-- The kinds of attribute that are written by a short name. -/
def Attribute.shortNames : List (Oid × String) :=
  [(.ofArcs [2, 5, 4, 3], "CN"), (.ofArcs [2, 5, 4, 7], "L"), (.ofArcs [2, 5, 4, 8], "ST"),
    (.ofArcs [2, 5, 4, 10], "O"), (.ofArcs [2, 5, 4, 11], "OU"), (.ofArcs [2, 5, 4, 6], "C"),
    (.ofArcs [2, 5, 4, 9], "STREET"),
    (.ofArcs [0, 9, 2342, 19200300, 100, 1, 25], "DC"),
    (.ofArcs [0, 9, 2342, 19200300, 100, 1, 1], "UID")]

/-- The name of a kind of attribute: the short one if it has one, else its path. -/
def Attribute.kindName (kind : Oid) : String :=
  match shortNames.lookup kind with
  | some name => name
  | none => kind.dotted

namespace Name

/-! ### Outer form -/

/-- Whether the members of a set stand in ascending order of their octets. -/
def isAscending : List Bytes → Bool
  | a :: b :: rest => !decide (b < a) && isAscending (b :: rest)
  | _ => true

/-- The relative name whose contents octets these are. -/
def relativeOfContents (contents : Bytes) : Except Der.Error (List Attribute) := do
  let members ← Der.elements contents
  if isAscending (members.map Der.Element.write) then
    members.mapM fun e =>
      if e.hasTag Der.sequenceTag then Attribute.ofContents e.contents
      else throw .unexpectedElement
  else throw .badValue

/-- The name at the front of the input. -/
def reader : Der.Reader Name := do
  return ⟨← Der.sequenceOf Der.setTag relativeOfContents (← Der.expect Der.sequenceTag)⟩

/-- A relative name as an element. -/
def relativeToElement (attributes : List Attribute) : Der.Element :=
  .make Der.setTag (attributes.flatMap fun a => a.toElement.write)

/-- The name as an element. -/
def toElement (name : Name) : Der.Element :=
  .make Der.sequenceTag (name.relativeNames.flatMap fun r => (relativeToElement r).write)

/-! ### Text -/

/-- The decoded attributes of a relative name: at least one, none twice. -/
def decodeRelative? (attributes : List Attribute) : Option (List (Oid × AttributeValue)) := do
  let decoded ← attributes.mapM fun a => do return (a.kind, ← a.decode?)
  if decoded ≠ [] ∧ decoded.Nodup then some decoded else none

/-- A relative name as text. -/
def renderRelative (attributes : List (Oid × AttributeValue)) : String :=
  "+".intercalate (attributes.map fun (kind, value) =>
    Attribute.kindName kind ++ "=" ++ value.render)

/-- **The name as text**, if all of it decodes. -/
def text? (name : Name) : Option String := do
  let decoded ← name.relativeNames.mapM decodeRelative?
  return ",".intercalate (decoded.reverse.map renderRelative)

end Name
end CertChain
