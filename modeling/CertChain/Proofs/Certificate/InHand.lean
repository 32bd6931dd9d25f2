import CertChain.Bundle
import CertChain.Proofs.Certificate.Decoder
import CertChain.Proofs.Name
import Mathlib.Logic.Relation

/-!
# A certificate in hand answers

The names in a document are decoded when somebody asks for them, and not all names can be
decoded. If that were left to whoever asks, a certificate could be read without fail and then
refuse to say whose it is. This is why both readers decode the two names before they hand out
anything, and `Certificate.in_hand` says what is gained: reading gives a failure with one of
three codes or a certificate that has an answer to every question, as has everything that comes
of it, however often it is wrapped or written and read again.

`Document.ask` is the asking as it would be without that precaution. It decodes the names each
time and may fail. A certificate's own answers (`Certificate.tell`) are the ones that asking its
document gives (`Certificate.ask_document`), and the documents that are taken for certificates
are exactly those that answer everything (`Certificate.exists_ofDocument_iff`).

Reading itself is a computation that faults wherever something is wrong with the octets
(`Certificate.parsed`), under a handler that makes a failure of the fault. `Decoder.run` is
reading in this form, and no fault gets out of it (`Certificate.Decoder.run_eq`).
-/

namespace CertChain

/-! ### Questions -/

/-- What a certificate can be asked. -/
inductive Question where
  | subject
  | issuer
  | fingerprint
  | shown
  | written (format : Format)

/-- What it answers. -/
inductive Answer where
  | text (characters : String)
  | octets (octets : Bytes)

namespace Document

/-- A name as text, or what is wrong. -/
def textOf (name : Name) (e : Certificate.Error) : Except Certificate.Error String :=
  match name.text? with
  | none => .error e
  | some text => .ok text

/-- The digest of a document in hexadecimal. -/
def fingerprint (document : Document) : String :=
  Bytes.hex (HashFunction.sha256.digest document.write)

/-- A document in one of the two encodings. -/
def encode (document : Document) : Format → Bytes
  | .pem => Pem.write "CERTIFICATE" document.write
  | .der => document.write

/-- **Asking a document.** Its names are decoded each time they are needed. -/
def ask (document : Document) : Question → Except Certificate.Error Answer
  | .subject => do return .text (← textOf document.body.subject .badSubject)
  | .issuer => do return .text (← textOf document.body.issuer .badIssuer)
  | .fingerprint => .ok (.text document.fingerprint)
  | .shown => do
    let subject ← textOf document.body.subject .badSubject
    return .text ("Certificate(subject=" ++ quoted subject ++ ", sha256="
      ++ String.ofList (document.fingerprint.toList.take 16) ++ ")")
  | .written format => .ok (.octets (document.encode format))

/-- The names that have a text are those that decode. -/
theorem exists_textOf_iff {name : Name} {e : Certificate.Error} :
    (∃ text, textOf name e = .ok text) ↔ name.Decodes := by
  rw [← Name.exists_text?_iff, textOf]
  cases name.text? with
  | none =>
    constructor
    · rintro ⟨text, h⟩
      cases h
    · rintro ⟨text, h⟩
      cases h
  | some text => exact ⟨fun _ => ⟨text, rfl⟩, fun _ => ⟨text, rfl⟩⟩

/-- **Both names of a document decode.** -/
def NamesDecode (document : Document) : Prop :=
  document.body.subject.Decodes ∧ document.body.issuer.Decodes

end Document

namespace Certificate

variable {c c' : Certificate} {document : Document}

/-- The answers of a certificate. -/
def tell (c : Certificate) : Question → Answer
  | .subject => .text c.subject
  | .issuer => .text c.issuer
  | .fingerprint => .text c.fingerprint
  | .shown => .text c.shown
  | .written format => .octets (c.encode format)

/-- **Asking the document of a certificate** is answered, as the certificate itself answers. -/
theorem ask_document (c : Certificate) (q : Question) : c.document.ask q = .ok (c.tell q) := by
  -- both names are kept with the certificate as their documents decode, and all else is computed
  -- alike
  cases q with
  | subject =>
    rw [Document.ask, Document.textOf, c.subject_eq]
    rfl
  | issuer =>
    rw [Document.ask, Document.textOf, c.issuer_eq]
    rfl
  | fingerprint => rfl
  | shown =>
    rw [Document.ask, Document.textOf, c.subject_eq]
    rfl
  | written format =>
    cases format with
    | pem => rfl
    | der => rfl

/-! ### What is taken for a certificate -/

/-- A document is taken for a certificate exactly if both of its names decode. -/
theorem exists_ofDocument_iff_namesDecode :
    (∃ c, ofDocument document = .ok c) ↔ document.NamesDecode := by
  rw [Document.NamesDecode, ← Name.exists_text?_iff, ← Name.exists_text?_iff]
  constructor
  · rintro ⟨c, h⟩
    -- a certificate was made of its document, whose names have been decoded then
    rw [← document_of_ofDocument h]
    exact ⟨⟨_, c.subject_eq⟩, _, c.issuer_eq⟩
  · rintro ⟨⟨subject, hsubject⟩, issuer, hissuer⟩
    unfold ofDocument
    split
    · rename_i hnone
      rw [hsubject] at hnone
      cases hnone
    · split
      · rename_i hnone
        rw [hissuer] at hnone
        cases hnone
      · exact ⟨_, rfl⟩

/-- **The documents that are taken for certificates** are those that answer every question. -/
theorem exists_ofDocument_iff :
    (∃ c, ofDocument document = .ok c) ↔ ∀ q, ∃ answer, document.ask q = .ok answer := by
  constructor
  · rintro ⟨c, h⟩ q
    rw [← document_of_ofDocument h]
    exact ⟨_, c.ask_document q⟩
  · intro h
    rw [exists_ofDocument_iff_namesDecode]
    -- two questions are enough, the ones about the names
    obtain ⟨_, hsubject⟩ := h .subject
    obtain ⟨_, hissuer⟩ := h .issuer
    obtain ⟨subject, hsubject, -⟩ := bind_ok hsubject
    obtain ⟨issuer, hissuer, -⟩ := bind_ok hissuer
    exact ⟨Document.exists_textOf_iff.mp ⟨subject, hsubject⟩,
      Document.exists_textOf_iff.mp ⟨issuer, hissuer⟩⟩

/-! ### Reading with faults -/

/-- The octets that a text or octets offer, where it is a fault if there are none. -/
def offering (format : Format) (raw : Bytes) : Except Fault Bytes :=
  match format with
  | .pem => (Pem.firstLabelled labels raw).mapError fun reason => (Error.armour reason).fault
  | .der => .ok raw

/-- **Taking octets apart, and asking for both names.** Whatever is wrong is a fault. -/
def parsed (format : Format) (raw : Bytes) : Except Fault Certificate := do
  let octets ← offering format raw
  let document ← (Document.read octets).mapError fun reason => (Error.encoding reason).fault
  (ofDocument document).mapError Error.fault

/-- Taking octets apart is reading, with its errors told as faults. -/
theorem parsed_eq (format : Format) (raw : Bytes) :
    parsed format raw = match format with
      | .pem => (readPem raw).mapError Error.fault
      | .der => (readDer raw).mapError Error.fault := by
  -- behind the armour of a text everything is the same
  have hder : ∀ octets, (do
      let document ← (Document.read octets).mapError fun reason => (Error.encoding reason).fault
      (ofDocument document).mapError Error.fault) = (readDer octets).mapError Error.fault := by
    intro octets
    rw [readDer]
    cases Document.read octets <;> rfl
  cases format with
  | der => exact hder raw
  | pem =>
    rw [parsed, offering, readPem]
    cases Pem.firstLabelled labels raw with
    | error reason => rfl
    | ok octets => exact hder octets

/-- A fault in the octets is made a failure, whichever it is. -/
theorem ofComputation_mapError (format : Format) (result : Except Error Certificate) :
    Outcome.ofComputation (result.mapError Error.fault) .decodeError
        ("Failed to decode " ++ format.title ++ " certificate")
      = (.ok (outcomeOf format result) : Except Fault (Outcome Certificate)) := by
  cases result with
  | error e => rfl
  | ok c => rfl

/-- **Decoding is taking the octets apart under a handler.** -/
theorem ofComputation_parsed (format : Format) (raw : Bytes) :
    Outcome.ofComputation (parsed format raw) .decodeError
        ("Failed to decode " ++ format.title ++ " certificate")
      = (.ok (decode format raw) : Except Fault (Outcome Certificate)) := by
  rw [parsed_eq]
  cases format with
  | pem => exact ofComputation_mapError .pem (readPem raw)
  | der => exact ofComputation_mapError .der (readDer raw)

namespace Decoder

/-- Reading, as a computation that might fault. -/
def run (d : Decoder) (raw : Bytes) : Except Fault (Outcome Certificate) :=
  Outcome.flatMap (d.encodingOf raw) fun format =>
    Outcome.ofComputation (parsed format raw) .decodeError
      ("Failed to decode " ++ format.title ++ " certificate")

/-- **No reader faults.** -/
theorem run_eq (d : Decoder) (raw : Bytes) : d.run raw = .ok (d.read raw) := by
  rw [run, read_eq]
  cases d.encodingOf raw with
  | error f => rfl
  | ok format => exact ofComputation_parsed format raw

/-! ### Failures -/

variable {d : Decoder} {raw : Bytes}

/-- An encoding that is not found out is one of two failures. -/
theorem encodingOf_error {f : Failure} (h : d.encodingOf raw = .error f) :
    f.code = .inputTooShort ∨ f.code = .unrecognizedEncoding := by
  have hidentify : ∀ strict, identify strict raw = .error f →
      f.code = .inputTooShort ∨ f.code = .unrecognizedEncoding := by
    intro strict h
    -- one code for octets that are too short and one for what they begin with
    rw [identify.eq_def] at h
    split_ifs at h
    · cases h
      exact .inl rfl
    · split at h
      · split_ifs at h
        cases h
        exact .inr rfl
      · cases h
  cases d with
  | told format => cases h
  | any strict => exact hidentify strict h
  | loader l => exact hidentify l.strict h

/-- There is one code for all failures to decode. -/
theorem decode_error {format : Format} {f : Failure} (h : decode format raw = .error f) :
    f.code = .decodeError := by
  have houtcome : ∀ result, outcomeOf format result = .error f → f.code = .decodeError := by
    intro result h
    cases result with
    | ok c => cases h
    | error e =>
      cases h
      rfl
  cases format with
  | pem => exact houtcome _ h
  | der => exact houtcome _ h

/-- **The codes of readers.** -/
theorem read_error {f : Failure} (h : d.read raw = .error f) :
    f.code ∈ [ErrorCode.inputTooShort, .unrecognizedEncoding, .decodeError] := by
  cases hformat : d.encodingOf raw with
  | ok format =>
    rw [read_of_encodingOf hformat] at h
    rw [decode_error h]
    decide
  | error g =>
    rw [read_eq, hformat] at h
    cases h
    rcases encodingOf_error hformat with hcode | hcode
    · rw [hcode]
      decide
    · rw [hcode]
      decide

/-- Octets that are offered and form a document are read if its names decode, and otherwise it
is the decoding that fails. -/
theorem read_of_document {octets : Bytes} (hoffered : d.offered raw = some octets)
    (hdocument : Document.read octets = .ok document) :
    ((∃ c, d.read raw = .ok c) ↔ document.NamesDecode)
      ∧ ((d.read raw).FailsWith .decodeError ↔ ¬ document.NamesDecode) := by
  -- the octets are well formed, so nothing but the names can be refused
  have hread : readDer octets = ofDocument document := by
    rw [readDer, hdocument]
  have hok : (∃ c, d.read raw = .ok c) ↔ document.NamesDecode := by
    rw [← exists_ofDocument_iff_namesDecode, ← hread]
    refine exists_congr fun c => ?_
    rw [read_ok_iff, hoffered]
    constructor
    · rintro ⟨octets', h, hc⟩
      cases h
      exact hc
    · intro hc
      exact ⟨octets, rfl, hc⟩
  refine ⟨hok, ?_⟩
  rw [← hok]
  cases hresult : d.read raw with
  | ok c => exact ⟨fun h => absurd h Outcome.not_failsWith_ok, fun h => absurd ⟨c, rfl⟩ h⟩
  | error f =>
    refine ⟨fun _ => ?_, fun _ => ⟨f, rfl, ?_⟩⟩
    · rintro ⟨c, hc⟩
      cases hc
    · -- the encoding was found, or else nothing would be offered
      cases hformat : d.encodingOf raw with
      | ok format =>
        rw [read_of_encodingOf hformat] at hresult
        exact decode_error hresult
      | error g =>
        rw [offered, hformat] at hoffered
        cases hoffered

/-- Whether a reader takes octets in an encoding: it is told this one, or finds it out. -/
def Takes : Decoder → Format → Prop
  | .told it, format => it = format
  | _, _ => True

/-- A reader that takes an encoding reads the certificate that is written in it. -/
theorem read_encode (h : Decoded c) {format : Format} (htakes : d.Takes format) :
    d.read (c.encode format) = .ok c := by
  cases d with
  | told it =>
    cases htakes
    exact decode_encode h.readDer_toDer _
  | any strict => exact h.fromBytes_eq format strict
  | loader l => exact read_loader_encode h l format

end Decoder

/-! ### What comes of a certificate -/

/-- **A certificate in hand**: asking its document is answered, wrapping the document again
gives the same certificate, and so does reading what is written of it. -/
structure InHand (c : Certificate) : Prop where
  answers : ∀ q, c.document.ask q = .ok (c.tell q)
  rewrapped : (Bundle.certificate c).rewrap = .ok c
  reread : ∀ (d : Decoder) (format : Format), d.Takes format → d.read (c.encode format) = .ok c

/-- **What comes of a certificate in one step**: its document is wrapped again, or one of its
forms is read by a reader of whatever kind. -/
inductive Leads (c : Certificate) : Certificate → Prop where
  | rewrapped {c' : Certificate} (h : (Bundle.certificate c).rewrap = .ok c') : Leads c c'
  | reread {c' : Certificate} (d : Decoder) (format : Format)
      (h : d.read (c.encode format) = .ok c') : Leads c c'

/-- What is read by any reader could have been decoded from its octets. -/
theorem Decoder.decoded_of_read {d : Decoder} {raw : Bytes} (h : d.read raw = .ok c) :
    Decoded c :=
  .der (fromDer_toDer (readDer_of_read h))

/-- A certificate that is read is in hand. -/
theorem inHand_of_read {d : Decoder} {raw : Bytes} (h : d.read raw = .ok c) : InHand c where
  answers := c.ask_document
  rewrapped := rfl
  reread := fun _ _ htakes => Decoder.read_encode (Decoder.decoded_of_read h) htakes

/-- A certificate in hand leads to certificates in hand. -/
theorem InHand.leads (h : InHand c) (hleads : Leads c c') : InHand c' := by
  cases hleads with
  | rewrapped hwrap =>
    rw [h.rewrapped] at hwrap
    cases hwrap
    exact h
  | reread d format hread => exact inHand_of_read hread

/-- A certificate in hand leads to certificates in hand in any number of steps. -/
theorem InHand.leads_many (h : InHand c) (hleads : Relation.ReflTransGen Leads c c') :
    InHand c' := by
  -- each step starts from a certificate in hand, so the steps may be of different kinds
  induction hleads with
  | refl => exact h
  | tail _ hstep ih => exact ih.leads hstep

/-- **Reading never faults**, and what it gives is a failure with one of three codes or a
certificate that is in hand for good. Of the octets that form a document those are read whose
names decode; it is a failure to decode if one of them does not. -/
theorem in_hand (d : Decoder) (raw : Bytes) :
    d.run raw = .ok (d.read raw)
    ∧ ((∃ code ∈ [ErrorCode.inputTooShort, .unrecognizedEncoding, .decodeError],
          (d.read raw).FailsWith code)
      ∨ ∃ c, d.read raw = .ok c ∧ ∀ c', Relation.ReflTransGen Leads c c' → InHand c')
    ∧ ∀ octets document, d.offered raw = some octets → Document.read octets = .ok document →
      ((∃ c, d.read raw = .ok c) ↔ document.NamesDecode)
        ∧ ((d.read raw).FailsWith .decodeError ↔ ¬ document.NamesDecode) := by
  refine ⟨d.run_eq raw, ?_, fun octets document => Decoder.read_of_document⟩
  cases hread : d.read raw with
  | error f => exact .inl ⟨f.code, Decoder.read_error hread, f, rfl, rfl⟩
  | ok c => exact .inr ⟨c, rfl, fun c' => (inHand_of_read hread).leads_many⟩

/-- A name whose value claims to be UTF-8 and is not. -/
def illName : Name :=
  commonName [0xFF]

/-- That value is refused, so the name has no text. -/
theorem not_decodes_illName : ¬ illName.Decodes := by
  rw [← Name.text?_eq_none_iff]
  decide +kernel

/-- The small document with another issuer. -/
def issuedBy (issuer : Name) : Document :=
  let document := sampleDocument Algorithm.ed25519
  { document with body := { document.body with issuer := issuer } }

/-- The octets of a document are offered as they are. -/
theorem offered_write (document : Document) (strict : Bool) :
    (Decoder.any strict).offered document.write = some document.write := by
  -- a document is longer than the marker and begins as one, so its encoding is found
  have hlong : 34 ≤ document.write.length := document.length_write
  have hformat : identify strict document.write = .ok .der := by
    refine identify_of_sequence ?_ document.head?_write
    rw [length_pemMarker]
    omega
  rw [Decoder.offered_of_encodingOf (d := .any strict) hformat]
  rfl

/-- The octets of a document whose issuer's name does not decode, and those of one whose names
both do. -/
theorem in_hand_sample :
    (∀ strict, ((Decoder.any strict).read (issuedBy illName).write).FailsWith .decodeError)
      ∧ ∃ c, (Decoder.any true).read (issuedBy (commonName (Bytes.ofText "ca"))).write = .ok c
        ∧ InHand c := by
  constructor
  · intro strict
    have hread : Document.read (issuedBy illName).write = .ok (issuedBy illName) := by
      decide +kernel
    refine ((in_hand (.any strict) _).2.2 _ _ (offered_write _ strict) hread).2.mpr ?_
    rintro ⟨-, hissuer⟩
    exact not_decodes_illName hissuer
  · have hread : Document.read (issuedBy (commonName (Bytes.ofText "ca"))).write
        = .ok (issuedBy (commonName (Bytes.ofText "ca"))) := by
      decide +kernel
    obtain ⟨hok, -⟩ := (in_hand (.any true) _).2.2 _ _ (offered_write _ true) hread
    obtain ⟨c, hc⟩ := hok.mpr ⟨Name.exists_text?_iff.mp ⟨_, text?_subject⟩,
      Name.exists_text?_iff.mp ⟨_, text?_issuer⟩⟩
    exact ⟨c, hc, inHand_of_read hc⟩

end Certificate
end CertChain
