import CertChain.Proofs.Detection
import CertChain.Proofs.Pem.Label

/-!
# A certificate among other blocks

A text may hold many blocks, and the certificate in it is the first one that bears a
certificate's label. As long as all blocks are well formed nothing else counts: reading the
text comes to reading the octets in that block (`Certificate.fromPem_writeAll`), and the blocks
before and behind it, faulty certificates among them, do no harm.

One would want that whatever stands behind the certificate does no harm either, since nobody
asks for it. That is not so. All blocks are decoded before one of them is chosen, and so a
block behind the certificate that is whole but cannot be decoded makes the reading fail.
`Certificate.readsThrough_or_spoiledBy` says that this is the only thing that can happen: a tail
is ignored exactly if each whole block in it holds something. In particular, texts without
blocks are, and blocks that are cut off, and well-formed blocks whatever octets they hold.
-/

namespace CertChain
namespace Certificate

variable {c : Certificate}

/-! ### The first certificate -/

/-- The decoder of texts succeeds where the reader of texts does. -/
theorem fromPem_ok_iff {input : Bytes} : fromPem input = .ok c ↔ readPem input = .ok c :=
  outcomeOf_ok_iff

/-- The decoder of octets succeeds where the reader of octets does. -/
theorem fromDer_ok_iff {input : Bytes} : fromDer input = .ok c ↔ readDer input = .ok c :=
  outcomeOf_ok_iff

/-- The decoder of octets fails where the reader of octets does. -/
theorem fromDer_eq_error_iff {input : Bytes} :
    (∃ f, fromDer input = .error f) ↔ ∃ e, readDer input = .error e := by
  rw [fromDer]
  cases readDer input with
  | ok certificate =>
    constructor
    · rintro ⟨f, hf⟩
      cases hf
    · rintro ⟨e, he⟩
      cases he
  | error e => exact ⟨fun _ => ⟨e, rfl⟩, fun _ => ⟨_, rfl⟩⟩

/-- **A text of blocks is read as the first certificate's block in it.** Either reader takes
what the other one takes, as the same certificate, and fails where the other one fails. -/
theorem fromPem_writeAll {blocks : List Pem.Block} (h : ∀ block ∈ blocks, block.WellFormed) :
    (∀ before block after, blocks = before ++ block :: after →
      (∀ b ∈ before, b.label ∉ labels) → block.label ∈ labels →
        (∀ c, fromPem (Pem.writeAll blocks) = .ok c ↔ fromDer block.contents = .ok c)
        ∧ ((fromPem (Pem.writeAll blocks)).FailsWith .decodeError
          ↔ ∃ f, fromDer block.contents = .error f))
    ∧ ((∀ block ∈ blocks, block.label ∉ labels) →
      (fromPem (Pem.writeAll blocks)).FailsWith .decodeError) := by
  constructor
  · rintro before block after rfl hbefore hmem
    -- the text offers the octets in the block, and the rest is up to their reader
    have hread : readPem (Pem.writeAll (before ++ block :: after)) = readDer block.contents :=
      readPem_of_firstLabelled (Pem.firstLabelled_writeAll h hbefore hmem)
    constructor
    · intro c
      rw [fromPem_ok_iff, fromDer_ok_iff, hread]
    · rw [fromDer_eq_error_iff, fromPem, outcomeOf_failsWith_iff, hread]
  · intro hnone
    obtain ⟨reason, hreason⟩ := Pem.firstLabelled_writeAll_of_unlabelled h hnone
    exact fromPem_of_error hreason

/-- A block with another label before the certificate, and one behind it that bears the other
label of certificates and holds none. -/
theorem fromPem_writeAll_sample :
    let blocks : List Pem.Block :=
      [⟨"X-NOTE", [0x2D]⟩, ⟨"CERTIFICATE", (sample Algorithm.ed25519).toDer⟩,
        ⟨"X509 CERTIFICATE", [0x30]⟩]
    (∀ block ∈ blocks, block.WellFormed)
      ∧ fromPem (Pem.writeAll blocks) = .ok (sample Algorithm.ed25519) := by
  intro blocks
  have hformed : ∀ block ∈ blocks, block.WellFormed := by
    simp only [blocks, List.forall_mem_cons]
    exact ⟨(Pem.isLabel_iff ⟨"X-NOTE", _⟩).mp (by decide),
      (Pem.isLabel_iff ⟨"CERTIFICATE", _⟩).mp isLabel_certificate,
      (Pem.isLabel_iff ⟨"X509 CERTIFICATE", _⟩).mp (by decide), List.forall_mem_nil _⟩
  refine ⟨hformed, ?_⟩
  have hder : fromDer (sample Algorithm.ed25519).toDer = .ok (sample Algorithm.ed25519) :=
    fromDer_toDer decoded_sample.readDer_toDer
  exact (((fromPem_writeAll hformed).1 [_] ⟨"CERTIFICATE", _⟩ [_] rfl (by decide) (by decide)).1
    _).mpr hder

/-! ### What stands behind -/

/-- **A tail is ignored** by the reader of texts and by those that are told no encoding. -/
def ReadsThrough (c : Certificate) (tail : Bytes) : Prop :=
  fromPem (c.toPem ++ tail) = .ok c ∧ ∀ strict, fromBytes strict (c.toPem ++ tail) = .ok c

/-- **A tail spoils the text** before it, for the same readers. -/
def SpoiledBy (c : Certificate) (tail : Bytes) : Prop :=
  (fromPem (c.toPem ++ tail)).FailsWith .decodeError
    ∧ ∀ strict, (fromBytes strict (c.toPem ++ tail)).FailsWith .decodeError

/-- What is ignored spoils nothing. -/
theorem ReadsThrough.not_spoiledBy {tail : Bytes} (h : c.ReadsThrough tail) :
    ¬ c.SpoiledBy tail := by
  intro hspoiled
  have hfails := hspoiled.1
  rw [h.1] at hfails
  exact Outcome.not_failsWith_ok hfails

/-- What begins with a certificate's text is taken for a text. -/
theorem fromBytes_toPem_append (c : Certificate) (tail : Bytes) (strict : Bool) :
    fromBytes strict (c.toPem ++ tail) = fromPem (c.toPem ++ tail) := by
  have hmarker : pemMarker <+: c.toPem ++ tail :=
    c.pemMarker_prefix_toPem.trans (List.prefix_append c.toPem tail)
  rw [fromBytes, identify_of_prefix hmarker]
  rfl

/-- The certificate is offered unless the blocks behind it make the reading fail. -/
theorem firstLabelled_toPem_append (c : Certificate) (tail : Bytes) :
    Pem.firstLabelled labels (c.toPem ++ tail) = (Pem.read tail).map fun _ => c.toDer := by
  -- the text and its tail are one block and then the blocks of the tail, all read at once
  rw [toPem, Pem.write_eq, List.append_assoc, List.singleton_append,
    Pem.firstLabelled_extent_append isLabel_certificate (by decide), Pem.read_feed_cons]

/-- A tail that can be read is ignored. -/
theorem readsThrough_of_read (h : Decoded c) {tail : Bytes} {blocks : List Pem.Block}
    (hread : Pem.read tail = .ok blocks) : c.ReadsThrough tail := by
  have hpem : fromPem (c.toPem ++ tail) = .ok c := by
    apply fromPem_of_firstLabelled h.readDer_toDer
    rw [firstLabelled_toPem_append, hread]
    rfl
  refine ⟨hpem, fun strict => ?_⟩
  rw [fromBytes_toPem_append]
  exact hpem

/-- A tail that cannot be read spoils the text before it. -/
theorem spoiledBy_of_error (c : Certificate) {tail : Bytes} {reason : Pem.Error}
    (hread : Pem.read tail = .error reason) : c.SpoiledBy tail := by
  have hfirst : Pem.firstLabelled labels (c.toPem ++ tail) = .error reason := by
    rw [firstLabelled_toPem_append, hread]
    rfl
  refine ⟨fromPem_of_error hfirst, fun strict => ?_⟩
  rw [fromBytes_toPem_append]
  exact fromPem_of_error hfirst

/-- **A tail is ignored or it spoils the text.** It is ignored if every whole block in it holds
something, and it spoils the text if one of them is faulty. -/
theorem readsThrough_or_spoiledBy (h : Decoded c) (tail : Bytes) :
    (c.ReadsThrough tail ↔ ∀ raw ∈ Pem.rawBlocks tail, ∃ block, raw.Holds block)
    ∧ (c.SpoiledBy tail ↔ ∃ raw ∈ Pem.rawBlocks tail, ∀ block, ¬ raw.Holds block) := by
  rw [← Pem.exists_read_iff, ← Pem.exists_read_error_iff]
  -- reading the tail decides between the two, so each equivalence has one direction to exclude
  cases hread : Pem.read tail with
  | ok blocks =>
    have hthrough := readsThrough_of_read h hread
    refine ⟨⟨fun _ => ⟨blocks, rfl⟩, fun _ => hthrough⟩, fun hspoiled => ?_, ?_⟩
    · exact absurd hspoiled hthrough.not_spoiledBy
    · rintro ⟨reason, hreason⟩
      cases hreason
  | error reason =>
    have hspoiled := spoiledBy_of_error c hread
    refine ⟨⟨fun hthrough => ?_, ?_⟩, fun _ => ⟨reason, rfl⟩, fun _ => hspoiled⟩
    · exact absurd hspoiled hthrough.not_spoiledBy
    · rintro ⟨blocks, hblocks⟩
      cases hblocks

/-- A block whose last line is missing does no harm, although its body is no base64. -/
theorem readsThrough_cutBlock :
    Decoded (sample Algorithm.ed25519)
      ∧ (sample Algorithm.ed25519).ReadsThrough
        (Bytes.ofText "-----BEGIN CERTIFICATE-----\n!\n-----END CERT") := by
  refine ⟨decoded_sample, (readsThrough_or_spoiledBy decoded_sample _).1.mpr ?_⟩
  -- what is cut off in the last line is no block at all
  rw [Pem.rawBlocks_of_none rfl]
  exact List.forall_mem_nil _

/-- A certificate's block whose body is no base64. -/
def damagedBlock : Bytes :=
  Bytes.ofText "-----BEGIN CERTIFICATE-----\n!\n-----END CERTIFICATE-----\n"

/-- The damaged block is whole, and its body cannot be decoded. -/
theorem read_damagedBlock : Pem.read damagedBlock = .error .badBody := by
  -- there is one block, and its only letter does not belong to the alphabet
  have hraw : Pem.rawBlock? damagedBlock = some (⟨Bytes.ofText "CERTIFICATE", [],
      Bytes.ofText "!\n", Bytes.ofText "CERTIFICATE"⟩, []) := rfl
  have hdecode : Pem.RawBlock.decode ⟨Bytes.ofText "CERTIFICATE", [], Bytes.ofText "!\n",
      Bytes.ofText "CERTIFICATE"⟩ = .error .badBody := by
    decide +kernel
  rw [Pem.read, Pem.rawBlocks_of_some hraw, List.mapM_cons, hdecode]
  rfl

/-- **A damaged certificate behind a good one** makes the good one unreadable. -/
theorem not_readsThrough_damagedBlock :
    Decoded (sample Algorithm.ed25519) ∧ ¬ (sample Algorithm.ed25519).ReadsThrough damagedBlock
      ∧ (sample Algorithm.ed25519).SpoiledBy damagedBlock := by
  have hspoiled := spoiledBy_of_error (sample Algorithm.ed25519) read_damagedBlock
  exact ⟨decoded_sample, fun hthrough => hthrough.not_spoiledBy hspoiled, hspoiled⟩

end Certificate
end CertChain
