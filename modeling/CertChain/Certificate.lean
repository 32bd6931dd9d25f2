import CertChain.Certificate.Document
import CertChain.Digest.HashFunction
import CertChain.Format
import CertChain.Pem
import CertChain.PublicKey

/-!
# Certificates

A `Certificate` is a document both of whose names can be written as text. The two texts
are kept beside the document, with the proof that they are right, so whoever holds a
certificate can name it, encode it and take its fingerprint without fail.

`Certificate.fromDer` and `Certificate.fromPem` read the two encodings and
`Certificate.encode` writes them. Where a text holds several blocks the first one with a
certificate's label is taken.
-/

namespace CertChain

/-- **A certificate**: a document, and the texts of its names. -/
structure Certificate where
  document : Document
  subject : String
  issuer : String
  subject_eq : document.body.subject.text? = some subject
  issuer_eq : document.body.issuer.text? = some issuer
  deriving DecidableEq

namespace Certificate

/-- Why octets are no certificate. -/
inductive Error where
  | armour (reason : Pem.Error)
  | encoding (reason : Der.Error)
  | badSubject
  | badIssuer
  deriving DecidableEq, Repr

/-- The words for an error, those of the readers where one of them has found it. They only ever
stand at the end of a message. -/
def Error.text : Error → String
  | .armour reason => reason.text
  | .encoding reason => reason.text
  | .badSubject => "the subject's name does not decode"
  | .badIssuer => "the issuer's name does not decode"

/-- An error as a fault. -/
def Error.fault (e : Error) : Fault :=
  .ofText Fault.Kind.value e.text

/-! ### Reading -/

/-- The certificate that a document is, if its names decode. -/
def ofDocument (document : Document) : Except Error Certificate :=
  match hs : document.body.subject.text? with
  | none => .error .badSubject
  | some subject =>
    match hi : document.body.issuer.text? with
    | none => .error .badIssuer
    | some issuer => .ok ⟨document, subject, issuer, hs, hi⟩

/-- Reads octets. -/
def readDer (input : Bytes) : Except Error Certificate :=
  match Document.read input with
  | .error reason => .error (.encoding reason)
  | .ok document => ofDocument document

/-- The labels of blocks that hold certificates. -/
def labels : List String :=
  ["CERTIFICATE", "X509 CERTIFICATE"]

/-- Reads the first certificate in a text. -/
def readPem (input : Bytes) : Except Error Certificate :=
  match Pem.firstLabelled labels input with
  | .error reason => .error (.armour reason)
  | .ok contents => readDer contents

/-- What the reader found, as an outcome. -/
def outcomeOf (format : Format) (result : Except Error Certificate) : Outcome Certificate :=
  match result with
  | .ok certificate => .ok certificate
  | .error e =>
    .error (.because .decodeError ("Failed to decode " ++ format.title ++ " certificate") e.fault)

/-- **The certificate in a text.** -/
def fromPem (input : Bytes) : Outcome Certificate :=
  outcomeOf .pem (readPem input)

/-- **The certificate that octets are.** -/
def fromDer (input : Bytes) : Outcome Certificate :=
  outcomeOf .der (readDer input)

/-- The certificate in octets whose encoding is known. -/
def decode (format : Format) (input : Bytes) : Outcome Certificate :=
  match format with
  | .pem => fromPem input
  | .der => fromDer input

/-- The fault of making a certificate of something that is no document. -/
def notADocument (kindName : String) : Fault :=
  .ofText Fault.Kind.type
    ("Certificate wraps cryptography.x509.Certificate, got " ++ kindName)

/-! ### Writing -/

variable (c : Certificate)

/-- The octets of a certificate. -/
def toDer : Bytes :=
  c.document.write

/-- A certificate as text. -/
def toPem : Bytes :=
  Pem.write "CERTIFICATE" c.toDer

/-- **A certificate in an encoding.** -/
def encode (format : Format) : Bytes :=
  match format with
  | .pem => c.toPem
  | .der => c.toDer

/-! ### Looking -/

/-- The digest of a certificate's octets, in hexadecimal. -/
def fingerprint : String :=
  Bytes.hex (HashFunction.sha256.digest c.toDer)

/-- A certificate in short: its subject and the beginning of its fingerprint. -/
def shown : String :=
  "Certificate(subject=" ++ quoted c.subject ++ ", sha256="
    ++ String.ofList (c.fingerprint.toList.take 16) ++ ")"

/-- Equal certificates have equal hashes. -/
instance : Hashable Certificate := ⟨fun c => hash c.toDer⟩

/-- A fault in a key. -/
def keyFault (e : PublicKey.Error) : Fault :=
  .ofText (match e with
    | .unsupportedAlgorithm | .unsupportedCurve => .unsupportedAlgorithm
    | _ => Fault.Kind.value) e.text

/-- **The certified key.** -/
def publicKey : Outcome PublicKey :=
  match PublicKey.ofSubjectKey c.document.body.key with
  | .ok key => .ok key
  | .error e =>
    .error (.because .keyExtractionError "Failed to extract public key from certificate"
      (keyFault e))

end Certificate
end CertChain
