import CertChain.Algorithm.Known
import CertChain.Name

/-!
# The certificate document

A certificate is a signed document. Its body says who is certified by whom, for how
long and with which key; the signature algorithm and the signature over the body
follow. `Document.read` takes an octet string apart, all the way down to names,
points in time and extensions, and `Document.write` puts it together again.

Everything that the reader keeps is kept as it was spelled, and the few things that
it does not keep have one spelling: a first-version certificate does not write its
version, an extension that is not critical does not say so, and lengths and tags are
shortest. So writing gives back the octets that were read.
-/

namespace CertChain

/-- The two versions that certificates bear. -/
inductive Version where
  | first
  | third
  deriving DecidableEq, Repr

/-- The first and the last moment of a certificate's life. -/
structure Validity where
  notBefore : Der.Time
  notAfter : Der.Time
  deriving DecidableEq, Repr

/-- The certified key, as it stands in the certificate: what it is for, and its bits. -/
structure SubjectKey where
  algorithm : Algorithm
  bits : Der.BitString
  deriving DecidableEq, Repr

/-- An extension. Its value is not looked into. -/
structure Extension where
  id : Oid
  critical : Bool
  value : Bytes
  deriving DecidableEq, Repr

/-- The part of a certificate that is signed. -/
structure Body where
  version : Version
  serial : Der.Integer
  algorithm : Algorithm
  issuer : Name
  validity : Validity
  subject : Name
  key : SubjectKey
  issuerId : Option Der.BitString
  subjectId : Option Der.BitString
  extensions : Option (List Extension)
  deriving DecidableEq, Repr

/-- A body, the algorithm it is signed with, and the signature. -/
structure Document where
  body : Body
  algorithm : Algorithm
  signature : Der.BitString
  deriving DecidableEq, Repr

/-! ### Version -/

namespace Version

/-- The version at the front of the input. The first version is the one that is not
written; the third has the number 2. -/
def reader : Der.Reader Version := do
  match ← Der.optional (Der.contextTag 0) with
  | none => return .first
  | some contents =>
    if (← Der.within Der.Integer.naturalReader contents) = 2 then return .third
    else throw .badVersion

/-- The version as it is written. -/
def write : Version → Bytes
  | .first => []
  | .third =>
    (Der.Element.make (Der.contextTag 0) (Der.Integer.toElement ⟨[2]⟩).write).write

end Version

/-! ### Validity and key -/

namespace Validity

def reader : Der.Reader Validity :=
  Der.sequence do
    let notBefore ← Der.Time.reader
    return ⟨notBefore, ← Der.Time.reader⟩

def write (validity : Validity) : Bytes :=
  Der.writeSequence (validity.notBefore.toElement.write ++ validity.notAfter.toElement.write)

end Validity

namespace SubjectKey

def reader : Der.Reader SubjectKey :=
  Der.sequence do
    let algorithm ← Algorithm.reader
    return ⟨algorithm, ← Der.BitString.reader⟩

def write (key : SubjectKey) : Bytes :=
  Der.writeSequence (key.algorithm.toElement.write ++ key.bits.toElement.write)

end SubjectKey

/-! ### Extensions -/

namespace Extension

/-- The extension whose contents octets these are. Only criticality is written; its
absence is not. -/
def ofContents (contents : Bytes) : Except Der.Error Extension :=
  Der.within (do
    let id ← Oid.reader
    let critical ←
      match ← Der.optional Der.booleanTag with
      | none => pure false
      | some octets =>
        if ← Der.booleanOfContents octets then pure true else throw .badValue
    return ⟨id, critical, ← Der.expect Der.octetStringTag⟩) contents

/-- The written form of a truth value that is only written when it is true. -/
def writeCritical (critical : Bool) : Bytes :=
  if critical then (Der.Element.make Der.booleanTag [0xFF]).write else []

def write (e : Extension) : Bytes :=
  Der.writeSequence (e.id.toElement.write ++ writeCritical e.critical
    ++ (Der.Element.make Der.octetStringTag e.value).write)

/-- The extensions at the front of the input, if there are any. -/
def listReader : Der.Reader (Option (List Extension)) := do
  match ← Der.optional (Der.contextTag 3) with
  | none => return none
  | some contents =>
    let members ← Der.within (Der.expect Der.sequenceTag) contents
    return some (← Der.sequenceOf Der.sequenceTag ofContents members)

/-- The written form of the extensions. -/
def writeList : Option (List Extension) → Bytes
  | none => []
  | some extensions =>
    (Der.Element.make (Der.contextTag 3) (Der.writeSequence (extensions.flatMap write))).write

end Extension

/-! ### Body -/

namespace Body

/-- A unique identifier of issuer or subject, if it is there. -/
def idReader (tag : UInt8) : Der.Reader (Option Der.BitString) := do
  match ← Der.optional tag with
  | none => return none
  | some contents => return some (← Der.BitString.ofContents contents)

/-- The written form of a unique identifier. -/
def writeId (tag : UInt8) : Option Der.BitString → Bytes
  | none => []
  | some bits => (Der.Element.make tag bits.contents).write

/-- The body at the front of the input. -/
def reader : Der.Reader Body :=
  Der.sequence do
    let version ← Version.reader
    let serial ← Der.Integer.reader
    let algorithm ← Algorithm.reader
    let issuer ← Name.reader
    let validity ← Validity.reader
    let subject ← Name.reader
    let key ← SubjectKey.reader
    let issuerId ← idReader (Der.primitiveContextTag 1)
    let subjectId ← idReader (Der.primitiveContextTag 2)
    let extensions ← Extension.listReader
    return ⟨version, serial, algorithm, issuer, validity, subject, key, issuerId, subjectId,
      extensions⟩

/-- **The octets that are signed.** -/
def write (b : Body) : Bytes :=
  Der.writeSequence (b.version.write ++ b.serial.toElement.write ++ b.algorithm.toElement.write
    ++ b.issuer.toElement.write ++ b.validity.write ++ b.subject.toElement.write ++ b.key.write
    ++ writeId (Der.primitiveContextTag 1) b.issuerId
    ++ writeId (Der.primitiveContextTag 2) b.subjectId ++ Extension.writeList b.extensions)

end Body

/-! ### Document -/

namespace Document

def reader : Der.Reader Document :=
  Der.sequence do
    let body ← Body.reader
    let algorithm ← Algorithm.reader
    return ⟨body, algorithm, ← Der.BitString.reader⟩

/-- **Reads a document**, which must be all of the input. -/
def read (input : Bytes) : Except Der.Error Document :=
  Der.within reader input

/-- **Writes a document.** -/
def write (d : Document) : Bytes :=
  Der.writeSequence (d.body.write ++ d.algorithm.toElement.write ++ d.signature.toElement.write)

end Document
end CertChain
