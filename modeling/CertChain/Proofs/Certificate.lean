import CertChain.Certificate.Detection
import CertChain.Proofs.Document
import CertChain.Proofs.Pem
import Mathlib.Control.Monad.Basic

/-!
# A certificate is read as it was written

Whoever holds a certificate holds all of it: its octets, and the text made of them, lead back
to the same certificate (`Certificate.decode_encode`).

Not every value of the type can be read back: a record may hold what no octets spell. The
statement is about the certificates that came out of a reader (`Certificate.Decoded`), and
from any of the readers it comes down to one fact, `Certificate.toDer_of_readDer`: the
octets that were read are the octets that are written.
-/

namespace CertChain

namespace Certificate

variable {c : Certificate} {input : Bytes}

/-! ### Readers and what they read -/

/-- **A certificate that was read**, by one of the readers and from any octets at all. -/
inductive Decoded (c : Certificate) : Prop where
  | pem {input : Bytes} (h : fromPem input = .ok c)
  | der {input : Bytes} (h : fromDer input = .ok c)
  | bytes {strict : Bool} {input : Bytes} (h : fromBytes strict input = .ok c)

/-- A success is one of the reader. -/
theorem outcomeOf_ok {format : Format} {result : Except Error Certificate}
    (h : outcomeOf format result = .ok c) : result = .ok c := by
  cases result with
  | error e => cases h
  | ok certificate =>
    cases h
    rfl

/-- An outcome succeeds exactly if the reader does, and with the same certificate. -/
theorem outcomeOf_ok_iff {format : Format} {result : Except Error Certificate} :
    outcomeOf format result = .ok c ↔ result = .ok c := by
  constructor
  · exact outcomeOf_ok
  · rintro rfl
    rfl

/-- Whatever the reason is why octets are no certificate, the failure has one code. -/
theorem outcomeOf_failsWith_iff {format : Format} {result : Except Error Certificate} :
    (outcomeOf format result).FailsWith .decodeError ↔ ∃ e, result = .error e := by
  cases result with
  | error e => exact ⟨fun _ => ⟨e, rfl⟩, fun _ => ⟨_, rfl, rfl⟩⟩
  | ok certificate =>
    constructor
    · exact fun h => absurd h Outcome.not_failsWith_ok
    · rintro ⟨e, he⟩
      cases he

/-- The document is kept when its names are decoded. -/
theorem document_of_ofDocument {document : Document} (h : ofDocument document = .ok c) :
    c.document = document := by
  -- either name may be undecodable, and then there is no certificate
  unfold ofDocument at h
  split at h
  · cases h
  · split at h
    · cases h
    · cases h
      rfl

/-- **The octets that were read** are the octets of the certificate. -/
theorem toDer_of_readDer (h : readDer input = .ok c) : c.toDer = input := by
  unfold readDer at h
  split at h
  · cases h
  · rename_i document hread
    -- names are decoded besides, but the document is kept as it was read
    rw [toDer, document_of_ofDocument h]
    exact (Document.spells_read hread).symm

/-- A text is read as the octets that it offers. -/
theorem readPem_of_firstLabelled {contents : Bytes}
    (h : Pem.firstLabelled labels input = .ok contents) : readPem input = readDer contents := by
  rw [readPem, h]

/-- A text that offers no octets has an error of the armour. -/
theorem readPem_of_error {reason : Pem.Error} (h : Pem.firstLabelled labels input = .error reason) :
    readPem input = .error (.armour reason) := by
  rw [readPem, h]

/-- A text that is read has octets in it that are read. -/
theorem readDer_of_readPem (h : readPem input = .ok c) :
    ∃ contents, Pem.firstLabelled labels input = .ok contents ∧ readDer contents = .ok c := by
  unfold readPem at h
  split at h
  · cases h
  · rename_i contents hfirst
    exact ⟨contents, hfirst, h⟩

/-- A reader that is told no encoding finds one and decodes. -/
theorem fromBytes_ok {strict : Bool} (h : fromBytes strict input = .ok c) :
    ∃ format, identify strict input = .ok format ∧ decode format input = .ok c := by
  unfold fromBytes at h
  cases hformat : identify strict input with
  | error f =>
    rw [hformat] at h
    cases h
  | ok format =>
    rw [hformat] at h
    exact ⟨format, rfl, h⟩

/-- The octets of a certificate that was read are read as the certificate. -/
theorem Decoded.of_readDer (h : readDer input = .ok c) : readDer c.toDer = .ok c := by
  rw [toDer_of_readDer h]
  -- these octets are the ones that were read
  exact h

/-- Whichever reader it was, the certificate is what its octets are read as. -/
theorem Decoded.readDer_toDer (h : Decoded c) : readDer c.toDer = .ok c := by
  -- for each encoding the octets that were offered are the octets that are written
  have hder : ∀ input, fromDer input = .ok c → readDer c.toDer = .ok c := fun input h =>
    Decoded.of_readDer (outcomeOf_ok h)
  have hpem : ∀ input, fromPem input = .ok c → readDer c.toDer = .ok c := by
    intro input h
    obtain ⟨contents, -, hcontents⟩ := readDer_of_readPem (outcomeOf_ok h)
    exact Decoded.of_readDer hcontents
  -- the reader that is told no encoding is one of the other two
  cases h with
  | pem h => exact hpem _ h
  | der h => exact hder _ h
  | bytes h =>
    obtain ⟨format, -, hdecode⟩ := fromBytes_ok h
    cases format with
    | pem => exact hpem _ hdecode
    | der => exact hder _ hdecode

/-! ### Reading back -/

/-- The octets of a certificate are read back. -/
theorem fromDer_toDer (h : readDer c.toDer = .ok c) : fromDer c.toDer = .ok c := by
  rw [fromDer, h]
  rfl

/-- The label that certificates are written with is one that can stand in a marker. -/
theorem isLabel_certificate : Pem.IsLabel "CERTIFICATE" := by
  decide

/-- A text that offers the octets of a certificate is read as the certificate. -/
theorem fromPem_of_firstLabelled (h : readDer c.toDer = .ok c)
    (hfirst : Pem.firstLabelled labels input = .ok c.toDer) : fromPem input = .ok c := by
  rw [fromPem, readPem_of_firstLabelled hfirst, h]
  rfl

/-- A text that offers no octets is not read. -/
theorem fromPem_of_error {reason : Pem.Error}
    (hfirst : Pem.firstLabelled labels input = .error reason) :
    (fromPem input).FailsWith .decodeError :=
  outcomeOf_failsWith_iff.mpr ⟨.armour reason, readPem_of_error hfirst⟩

/-- The text of a certificate is read back. -/
theorem fromPem_toPem (h : readDer c.toDer = .ok c) : fromPem c.toPem = .ok c :=
  fromPem_of_firstLabelled h (Pem.firstLabelled_write isLabel_certificate (by decide) c.toDer)

/-- What is written in a format is read back in it. -/
theorem decode_encode (h : readDer c.toDer = .ok c) (format : Format) :
    decode format (c.encode format) = .ok c := by
  cases format with
  | pem => exact fromPem_toPem h
  | der => exact fromDer_toDer h

/-! ### A small certificate -/

/-- The neutral point of the curve of Ed25519. As a key it accepts, for every message, the
signature that is made of this point and of the number zero. -/
def neutralPoint : Bytes :=
  1 :: List.replicate 31 0

/-- The name with one attribute, the common name `text`. -/
def commonName (text : Bytes) : Name :=
  ⟨[[⟨.ofArcs [2, 5, 4, 3], .make 0x0C text⟩]]⟩

/-- A document that certifies `neutralPoint`, with a signature that this key accepts. What it
says the signature is made with is `id`. -/
def sampleDocument (id : Oid) : Document where
  body :=
    { version := .third
      serial := ⟨[7]⟩
      algorithm := ⟨id, none⟩
      issuer := commonName (Bytes.ofText "ca")
      validity :=
        ⟨⟨.twoDigit, Bytes.ofText "200101000000Z"⟩, ⟨.twoDigit, Bytes.ofText "300101000000Z"⟩⟩
      subject := commonName (Bytes.ofText "a")
      key := ⟨⟨Algorithm.ed25519, none⟩, ⟨0, neutralPoint⟩⟩
      issuerId := none
      subjectId := none
      extensions := none }
  algorithm := ⟨id, none⟩
  signature := ⟨0, neutralPoint ++ List.replicate 32 0⟩

/-- The name of the sample in words. -/
theorem text?_subject : (commonName (Bytes.ofText "a")).text? = some "CN=a" := by
  decide +kernel

/-- The name of its issuer in words. -/
theorem text?_issuer : (commonName (Bytes.ofText "ca")).text? = some "CN=ca" := by
  decide +kernel

/-- The certificate that this document is. -/
def sample (id : Oid) : Certificate :=
  ⟨sampleDocument id, "CN=a", "CN=ca", text?_subject, text?_issuer⟩

/-- The sample is read from its own octets. -/
theorem decoded_sample : Decoded (sample Algorithm.ed25519) := by
  have hread : readDer (sample Algorithm.ed25519).toDer = .ok (sample Algorithm.ed25519) := by
    decide +kernel
  exact .der (fromDer_toDer hread)

end Certificate
end CertChain
