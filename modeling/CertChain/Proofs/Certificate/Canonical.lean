import CertChain.Proofs.Certificate.Armour

/-!
# A certificate is written as it was received

No certificate that is read has a second spelling: what `Certificate.toDer` writes is what was
read, octet for octet, however the octets came about. From a text it is the payload of the
block that was chosen, whose letters are the base64 form of these octets and of no others. So
the fingerprint that is shown is the digest of what was received
(`Certificate.written_as_received`).

All of this rests on `Document.spells_read`, which goes through the whole of the format, and
on `Pem.RawBlock.decode_ok_iff`. What is left to do here is to follow the two readers to them.
-/

namespace CertChain
namespace Certificate

variable {c : Certificate} {input : Bytes}

/-- A fingerprint is the digest in lower-case hexadecimal. -/
theorem inHex_fingerprint (c : Certificate) :
    Bytes.InHex (HashFunction.sha256.digest c.toDer) c.fingerprint.toList :=
  Bytes.inHex_hex _

/-- A certificate that was decoded from octets is written as these octets. -/
theorem toDer_of_fromDer (h : fromDer input = .ok c) : c.toDer = input :=
  toDer_of_readDer (fromDer_ok_iff.mp h)

/-- A text that is read as a certificate offers the octets of the certificate. -/
theorem firstLabelled_of_fromPem (h : fromPem input = .ok c) :
    Pem.firstLabelled labels input = .ok c.toDer := by
  obtain ⟨contents, hfirst, hcontents⟩ := readDer_of_readPem (fromPem_ok_iff.mp h)
  rw [toDer_of_readDer hcontents]
  exact hfirst

/-- **A certificate is written as it was received**, from octets or from a block in a text, and
its fingerprint is the digest of what was received. -/
theorem written_as_received :
    (∀ received c, fromDer received = .ok c →
      c.toDer = received
        ∧ Bytes.InHex (HashFunction.sha256.digest received) c.fingerprint.toList)
    ∧ ∀ text c, fromPem text = .ok c →
      ∃ before raw after label payload, Pem.rawBlocks text = before ++ raw :: after
        ∧ (∀ other ∈ before, ∃ block, other.Holds block ∧ block.label ∉ labels)
        ∧ label ∈ labels ∧ raw.Holds ⟨label, payload⟩
        ∧ c.toDer = payload ∧ fromDer payload = .ok c
        ∧ Bytes.InHex (HashFunction.sha256.digest payload) c.fingerprint.toList := by
  constructor
  · intro received c h
    have hsame := toDer_of_fromDer h
    refine ⟨hsame, ?_⟩
    rw [← hsame]
    exact c.inHex_fingerprint
  · intro text c h
    -- the payload is what the chosen block holds, and it is what the certificate is written as
    obtain ⟨before, raw, after, label, hraws, hmem, hraw, hbefore⟩ :=
      Pem.exists_rawBlock_of_firstLabelled (firstLabelled_of_fromPem h)
    have hder : fromDer c.toDer = .ok c := fromDer_toDer (Decoded.pem h).readDer_toDer
    exact ⟨before, raw, after, label, c.toDer, hraws, hbefore, hmem, hraw, rfl, hder,
      c.inHex_fingerprint⟩

/-- A certificate that is read from its octets, and from its text with the octets in a block. -/
theorem written_as_received_sample :
    let c := sample Algorithm.ed25519
    fromDer c.toDer = .ok c ∧ fromPem c.toPem = .ok c
      ∧ Bytes.InHex (HashFunction.sha256.digest c.toDer) c.fingerprint.toList
      ∧ ∃ raw ∈ Pem.rawBlocks c.toPem, ∃ label ∈ labels, raw.Holds ⟨label, c.toDer⟩ := by
  intro c
  have hread : readDer c.toDer = .ok c := decoded_sample.readDer_toDer
  have hder : fromDer c.toDer = .ok c := fromDer_toDer hread
  have hpem : fromPem c.toPem = .ok c := fromPem_toPem hread
  -- the block is found in the text, so there is one
  refine ⟨hder, hpem, (written_as_received.1 _ c hder).2, ?_⟩
  obtain ⟨before, raw, after, label, payload, hraws, -, hmem, hraw, rfl, -⟩ :=
    written_as_received.2 _ c hpem
  refine ⟨raw, ?_, label, hmem, hraw⟩
  rw [hraws]
  exact List.mem_append_right before List.mem_cons_self

end Certificate
end CertChain
