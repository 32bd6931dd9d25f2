import CertChain.Certificate.Loader
import CertChain.Proofs.Certificate.Truncation

/-!
# All ways to read a certificate

There are readers that are told the encoding, readers that find it out, and loaders, which
find it out and keep a record. A `Decoder` is any of them, so that what holds of all readers
can be said once.

They differ in the octets that they take for a document (`Decoder.offered`) and in nothing
else: what they read is the certificate that these octets spell (`Decoder.read_ok_iff`).
-/

namespace CertChain
namespace Certificate

/-- **A way to read a certificate.** -/
inductive Decoder where
  /-- The encoding is told. -/
  | told (format : Format)
  /-- The format is found out, strictly or not. -/
  | any (strict : Bool)
  /-- The format is found out, and an entry is made. -/
  | loader (loader : Loader)

/-- The octets that stand in octets of a known encoding, if any do. -/
def offeredIn (format : Format) (raw : Bytes) : Option Bytes :=
  match format with
  | .pem => (Pem.firstLabelled labels raw).toOption
  | .der => some raw

namespace Decoder

/-- The outcome of reading. -/
def read : Decoder → Bytes → Outcome Certificate
  | .told format, raw => decode format raw
  | .any strict, raw => fromBytes strict raw
  | .loader l, raw => (l.load raw : Logged _).collect.1

/-- The encoding that octets are taken to be in. -/
def encodingOf : Decoder → Bytes → Outcome Format
  | .told format, _ => .ok format
  | .any strict, raw => identify strict raw
  | .loader l, raw => identify l.strict raw

/-- **The octets that are taken for a document.** -/
def offered (d : Decoder) (raw : Bytes) : Option Bytes :=
  (d.encodingOf raw).toOption.bind fun format => offeredIn format raw

variable {d : Decoder} {raw : Bytes} {c : Certificate}

/-! ### Reading is decoding what is offered -/

/-- Every reader finds the encoding first and then decodes. -/
theorem read_eq (d : Decoder) (raw : Bytes) :
    d.read raw = d.encodingOf raw >>= fun format => decode format raw := by
  cases d <;> rfl

/-- Once the encoding is known, reading is decoding. -/
theorem read_of_encodingOf {format : Format} (h : d.encodingOf raw = .ok format) :
    d.read raw = decode format raw := by
  rw [read_eq, h]
  rfl

/-- Once the encoding is known, the octets are what stands in it. -/
theorem offered_of_encodingOf {format : Format} (h : d.encodingOf raw = .ok format) :
    d.offered raw = offeredIn format raw := by
  rw [offered, h]
  rfl

end Decoder

/-- To decode is to take out the octets and to read them. -/
theorem decode_ok_iff {format : Format} {raw : Bytes} {c : Certificate} :
    decode format raw = .ok c ↔ ∃ octets, offeredIn format raw = some octets
      ∧ readDer octets = .ok c := by
  cases format with
  | der =>
    rw [decode, fromDer_ok_iff]
    constructor
    · exact fun h => ⟨raw, rfl, h⟩
    · rintro ⟨octets, hoctets, h⟩
      cases hoctets
      exact h
  | pem =>
    rw [decode, fromPem_ok_iff, offeredIn]
    -- a text offers the contents of a block, or nothing if no block is found
    cases hfirst : Pem.firstLabelled labels raw with
    | error reason =>
      rw [readPem_of_error hfirst]
      constructor
      · intro h
        cases h
      · rintro ⟨octets, hoctets, -⟩
        cases hoctets
    | ok contents =>
      rw [readPem_of_firstLabelled hfirst]
      constructor
      · exact fun h => ⟨contents, rfl, h⟩
      · rintro ⟨octets, hoctets, h⟩
        cases hoctets
        exact h

namespace Decoder

variable {d : Decoder} {raw : Bytes} {c : Certificate}

/-- **What is read is what the offered octets spell.** -/
theorem read_ok_iff : d.read raw = .ok c ↔ ∃ octets, d.offered raw = some octets
    ∧ readDer octets = .ok c := by
  -- where no encoding is found, nothing is offered and nothing is read
  cases hformat : d.encodingOf raw with
  | ok format =>
    rw [read_of_encodingOf hformat, offered_of_encodingOf hformat]
    exact decode_ok_iff
  | error f =>
    rw [read_eq, offered, hformat]
    constructor
    · intro h
      cases h
    · rintro ⟨octets, hoctets, -⟩
      cases hoctets

/-- The octets that were offered are the octets of the certificate. -/
theorem offered_of_read (h : d.read raw = .ok c) : d.offered raw = some c.toDer := by
  obtain ⟨octets, hoctets, hread⟩ := read_ok_iff.mp h
  rw [hoctets, toDer_of_readDer hread]

/-- Whoever reads the octets of a certificate that was read reads the certificate. -/
theorem readDer_of_read (h : d.read raw = .ok c) : readDer c.toDer = .ok c := by
  obtain ⟨octets, -, hread⟩ := read_ok_iff.mp h
  exact Decoded.of_readDer hread

/-- Loaders read both forms of a certificate. -/
theorem read_loader_encode (h : Decoded c) (l : Loader) (format : Format) :
    (loader l).read (c.encode format) = .ok c :=
  h.fromBytes_eq format l.strict

/-- A text and the octets in it are both offered as these octets. -/
theorem offered_encode (c : Certificate) (format : Format) :
    (told format).offered (c.encode format) = some c.toDer := by
  cases format with
  | der => rfl
  | pem =>
    -- there is only one block in the text that is written
    have hfirst := Pem.firstLabelled_write isLabel_certificate
      (show "CERTIFICATE" ∈ labels by decide) c.toDer
    rw [offered_of_encodingOf rfl, offeredIn, encode, toPem, hfirst]
    rfl

end Decoder
end Certificate
end CertChain
