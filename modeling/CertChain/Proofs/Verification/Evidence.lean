import CertChain.Proofs.Certificate.Truncation
import CertChain.Proofs.Verification

/-!
# What verification looks at

Of the signer verification looks at the octets of the key, and of the signee at the signature,
at what is signed and at the algorithm between them. Whoever changes anything else about the
two certificates sees the same come out (`Pair.verify_sees`): names, serial numbers, dates and
extensions of a signer do not count, nor does its own signature.

The signee's own key is part of what is signed, so it cannot be changed alone. But it is not
looked into either. A refusal depends on the signer's key and on the algorithm only
(`checkSignature_refuses_same`), and so two signees whose algorithms are equal fare alike as
soon as the signer's key says the same about them, whatever keys they certify.

Outcomes are compared without the pair that a success carries (`Outcome.Alike`). For this the
octets have to say everything: a key and an algorithm that were read are told by the way they
are written (`Der.Spells.eq_of_write_eq`).
-/

namespace CertChain

open Der (run_bind_ok run_pure_ok)

/-- **Outcomes of which one tells no more than the other**: both are successes, or both are one
failure, with its code, its message and its fault. -/
inductive Outcome.Alike {α β : Type} : Outcome α → Outcome β → Prop where
  | ok (a : α) (b : β) : Alike (.ok a) (.ok b)
  | error (f : Failure) : Alike (.error f) (.error f)

/-! ### The octets that are looked at -/

namespace Certificate

variable {c c' : Certificate}

/-- The octets of the certified key. -/
def keyOctets (c : Certificate) : Bytes :=
  c.document.body.key.write

/-- The octets of the algorithm that a signature is said to be made with. -/
def algorithmOctets (c : Certificate) : Bytes :=
  c.document.algorithm.toElement.write

/-- **Certificates that are signed alike**: what is signed, the algorithm, and the signature. -/
structure SignedAlike (c c' : Certificate) : Prop where
  body : c.document.body.write = c'.document.body.write
  algorithm : c.algorithmOctets = c'.algorithmOctets
  signature : c.document.signature.octets = c'.document.signature.octets

/-- The key of a certificate that was read was itself read, and so was its algorithm. -/
theorem Decoded.parts (h : Decoded c) :
    (∃ input rest, SubjectKey.reader.run input = .ok (c.document.body.key, rest))
    ∧ ∃ input rest, Algorithm.anyReader.run input = .ok (c.document.algorithm, rest) := by
  obtain ⟨contents, _, -, hdocument⟩ :=
    run_bind_ok (Der.within_ok (document_of_readDer h.readDer_toDer))
  obtain ⟨hwithin, -⟩ := Der.run_lift_ok hdocument
  obtain ⟨body, _, hbody, hmore⟩ := run_bind_ok (Der.within_ok hwithin)
  obtain ⟨algorithm, _, halgorithm, hmore⟩ := run_bind_ok hmore
  obtain ⟨signature, _, -, hpure⟩ := run_bind_ok hmore
  obtain ⟨hparts, -⟩ := run_pure_ok hpure
  obtain ⟨octets, _, hget, hdepth⟩ := run_bind_ok halgorithm
  rw [hparts]
  refine ⟨?_, _, _, Algorithm.anyReader_of_readerOfDepth hdepth⟩
  -- the key is the seventh field of the body
  obtain ⟨contents, _, -, hinner⟩ := run_bind_ok hbody
  obtain ⟨hwithin, -⟩ := Der.run_lift_ok hinner
  obtain ⟨_, _, -, hmore⟩ := run_bind_ok (Der.within_ok hwithin)
  obtain ⟨_, _, -, hmore⟩ := run_bind_ok hmore
  obtain ⟨_, _, -, hmore⟩ := run_bind_ok hmore
  obtain ⟨_, _, -, hmore⟩ := run_bind_ok hmore
  obtain ⟨_, _, -, hmore⟩ := run_bind_ok hmore
  obtain ⟨_, _, -, hmore⟩ := run_bind_ok hmore
  obtain ⟨key, _, hkey, hmore⟩ := run_bind_ok hmore
  obtain ⟨_, _, -, hmore⟩ := run_bind_ok hmore
  obtain ⟨_, _, -, hmore⟩ := run_bind_ok hmore
  obtain ⟨_, _, -, hpure⟩ := run_bind_ok hmore
  obtain ⟨rfl, -⟩ := run_pure_ok hpure
  exact ⟨_, _, hkey⟩

/-- **The octets of a key say which key it is.** -/
theorem Decoded.key_eq (h : Decoded c) (h' : Decoded c') (hsame : c.keyOctets = c'.keyOctets) :
    c.document.body.key = c'.document.body.key := by
  obtain ⟨⟨_, _, hkey⟩, -⟩ := h.parts
  obtain ⟨⟨_, _, hkey'⟩, -⟩ := h'.parts
  exact SubjectKey.spells_reader.eq_of_write_eq hkey hkey' hsame

/-- **The octets of an algorithm say which one it is.** -/
theorem Decoded.algorithm_eq (h : Decoded c) (h' : Decoded c')
    (hsame : c.algorithmOctets = c'.algorithmOctets) :
    c.document.algorithm = c'.document.algorithm := by
  obtain ⟨-, _, _, halgorithm⟩ := h.parts
  obtain ⟨-, _, _, halgorithm'⟩ := h'.parts
  exact Algorithm.spells_anyReader.eq_of_write_eq halgorithm halgorithm' hsame

end Certificate

/-! ### Refusals -/

section Refusals

variable {key : PublicKey} {signee other : Document} {refusal : Refusal}

/-- Whether a key has room for the digest does not depend on what was signed. -/
theorem checkSalted_refuses_same {n e saltLength : Nat} {hash maskHash : HashFunction}
    {message message' signature signature' : Bytes}
    (h : checkSalted n e hash maskHash saltLength message signature = .error refusal) :
    checkSalted n e hash maskHash saltLength message' signature' = .error refusal := by
  unfold checkSalted at h ⊢
  split at h
  · rename_i hsmall
    rw [if_pos hsmall]
    exact h
  · cases h

/-- **Why a key refuses a signature** depends on the algorithm and on nothing else of the
certificate that is signed. -/
theorem checkSignature_refuses_same (hsame : signee.algorithm = other.algorithm)
    (h : checkSignature key signee = .error refusal) :
    checkSignature key other = .error refusal := by
  unfold checkSignature at h ⊢
  rw [hsame] at h
  refine bind_error_same h fun scheme hscheme => ?_
  -- of the branches for a key that fits, those that look up a hash function can refuse
  split at hscheme
  · refine bind_error_same hscheme fun found hfound => ?_
    cases found with
    | none => exact hfound
    | some hash => cases hfound
  · refine bind_error_same hscheme fun found hfound => ?_
    cases found with
    | none => exact hfound
    | some hash => exact checkSalted_refuses_same hfound
  · cases hscheme
  · cases hscheme
  · cases hscheme
  · refine bind_error_same hscheme fun found hfound => ?_
    cases found with
    | none => exact hfound
    | some hash => cases hfound
  · exact hscheme

end Refusals

/-! ### Certificates that differ in what is not looked at -/

namespace Certificate

/-- Another certificate for the key of the small one: its name, serial number and life are
others, it has an extension, and its own signature is none. -/
def renewed : Certificate where
  document :=
    let document := sampleDocument Algorithm.ed25519
    { document with
      body :=
        { document.body with
          serial := ⟨[8]⟩
          validity :=
            ⟨⟨.twoDigit, Bytes.ofText "300101000000Z"⟩, ⟨.twoDigit, Bytes.ofText "400101000000Z"⟩⟩
          subject := commonName (Bytes.ofText "ca")
          extensions := some [⟨.ofArcs [2, 5, 29, 19], true, [0x30, 0x00]⟩] }
      signature := ⟨0, []⟩ }
  subject := "CN=ca"
  issuer := "CN=ca"
  subject_eq := text?_issuer
  issuer_eq := text?_issuer

/-- The small certificate with a key that nothing is known of. -/
def unkeyed : Certificate :=
  let document := sampleDocument Algorithm.ed25519
  { sample Algorithm.ed25519 with
    document :=
      { document with
        body := { document.body with key := ⟨⟨Algorithm.unsigned, none⟩, ⟨0, neutralPoint⟩⟩ } }
    subject_eq := text?_subject
    issuer_eq := text?_issuer }

/-- The small certificate with a signature whose last bits do not count. -/
def frayed : Certificate :=
  let document := sampleDocument Algorithm.ed25519
  { sample Algorithm.ed25519 with
    document := { document with signature := ⟨7, document.signature.octets⟩ }
    subject_eq := text?_subject
    issuer_eq := text?_issuer }

/-- The renewed certificate can be read. -/
theorem decoded_renewed : Decoded renewed := by
  have hread : readDer renewed.toDer = .ok renewed := by
    decide +kernel
  exact .der (fromDer_toDer hread)

/-- The certificate without a usable key can be read. -/
theorem decoded_unkeyed : Decoded unkeyed := by
  have hread : readDer unkeyed.toDer = .ok unkeyed := by
    decide +kernel
  exact .der (fromDer_toDer hread)

/-- The certificate with the frayed key can be read. -/
theorem decoded_frayed : Decoded frayed := by
  have hread : readDer frayed.toDer = .ok frayed := by
    decide +kernel
  exact .der (fromDer_toDer hread)

end Certificate

/-! ### Verification -/

namespace Pair

variable {a a' b b' : Certificate}

/-- **Pairs fare alike** if the signers have one key, and the check of this key comes to the same
for both signees. -/
theorem verify_alike (hkey : a.document.body.key = a'.document.body.key)
    (hcheck : ∀ key, HasKey ⟨a, b⟩ key →
      checkSignature key b.document = checkSignature key b'.document) :
    (verify ⟨a, b⟩).Alike (verify ⟨a', b'⟩) := by
  cases hfound : PublicKey.ofSubjectKey a.document.body.key with
  | error e =>
    have hfound' : PublicKey.ofSubjectKey a'.document.body.key = .error e := hkey ▸ hfound
    rw [@verify_of_keyless ⟨a, b⟩ _ hfound, @verify_of_keyless ⟨a', b'⟩ _ hfound']
    exact .error _
  | ok key =>
    have hhas : HasKey ⟨a, b⟩ key := hfound
    have hhas' : HasKey ⟨a', b'⟩ key := by
      rw [HasKey, ← hkey]
      exact hfound
    rw [hhas.verify_eq, hhas'.verify_eq, verifyWith, verifyWith, ← hcheck key hhas]
    -- the check is the same one, and only what a success carries differs
    cases checkSignature key b.document with
    | error refusal => exact .error _
    | ok answer =>
      cases answer with
      | true => exact .ok _ _
      | false => exact .error _

/-- Where algorithms are equal, the check of a key comes to the same as soon as the key accepts
both signees or neither. -/
theorem checkSignature_same {key : PublicKey}
    (halgorithm : b.document.algorithm = b'.document.algorithm)
    (hanswers : Answers ⟨a, b⟩ key true ↔ Answers ⟨a, b'⟩ key true) :
    checkSignature key b.document = checkSignature key b'.document := by
  rw [Answers, Answers, ← checkSignature_iff, ← checkSignature_iff] at hanswers
  cases hcheck : checkSignature key b.document with
  | error refusal => rw [checkSignature_refuses_same halgorithm hcheck]
  | ok answer =>
    cases hcheck' : checkSignature key b'.document with
    | error refusal =>
      -- a refusal would be one of both
      rw [checkSignature_refuses_same halgorithm.symm hcheck'] at hcheck
      cases hcheck
    | ok answer' =>
      rw [hcheck, hcheck', Except.ok.injEq, Except.ok.injEq] at hanswers
      rw [Bool.eq_iff_iff.mpr hanswers]

/-- **Verification looks at the evidence only.** Whatever else the certificates are, signers
with one key fare alike, for every signee; signees with the same octets to sign, the same
algorithm and the same signature fare alike, for every signer. And where algorithms are equal,
signees fare alike as soon as the signer's key accepts both or neither, whatever keys they
certify: a key that does not decode is always the signer's. -/
theorem verify_sees (a a' b b' : Certificate) :
    (a.Decoded → a'.Decoded → a.keyOctets = a'.keyOctets →
      (verify ⟨a, b⟩).Alike (verify ⟨a', b⟩))
    ∧ (b.Decoded → b'.Decoded → b.SignedAlike b' → (verify ⟨a, b⟩).Alike (verify ⟨a, b'⟩))
    ∧ (b.Decoded → b'.Decoded → b.algorithmOctets = b'.algorithmOctets →
      (∀ key, HasKey ⟨a, b⟩ key → (Answers ⟨a, b⟩ key true ↔ Answers ⟨a, b'⟩ key true)) →
      (verify ⟨a, b⟩).Alike (verify ⟨a, b'⟩))
    ∧ ((verify ⟨a, b⟩).FailsWith .keyExtractionError
      ↔ (verify ⟨a, b'⟩).FailsWith .keyExtractionError) := by
  refine ⟨?_, ?_, ?_, ?_⟩
  · intro ha ha' hkey
    exact verify_alike (ha.key_eq ha' hkey) fun _ _ => rfl
  · intro hb hb' hsigned
    have halgorithm := hb.algorithm_eq hb' hsigned.algorithm
    refine verify_alike rfl fun key _ => ?_
    unfold checkSignature
    simp only [halgorithm, hsigned.body, hsigned.signature]
  · intro hb hb' hsame hanswers
    have halgorithm := hb.algorithm_eq hb' hsame
    exact verify_alike rfl fun key hkey => checkSignature_same halgorithm (hanswers key hkey)
  · exact (@verify_keyless_iff ⟨a, b⟩).trans (@verify_keyless_iff ⟨a, b'⟩).symm

/-- A certificate that signs itself, and three pairs in which one of the two is another one: a
signer that has only the key in common with it, a signee whose signature is spelled otherwise,
and a signee without a key that could be decoded. As a signer this last one has no key for any
signee. -/
theorem verify_sees_sample :
    let c := Certificate.sample Algorithm.ed25519
    verify ⟨c, c⟩ = .ok ⟨c, c⟩
      ∧ Certificate.renewed ≠ c ∧ (verify ⟨c, c⟩).Alike (verify ⟨Certificate.renewed, c⟩)
      ∧ Certificate.frayed ≠ c ∧ (verify ⟨c, c⟩).Alike (verify ⟨c, Certificate.frayed⟩)
      ∧ (∃ f, Certificate.unkeyed.publicKey = .error f)
      ∧ (verify ⟨c, c⟩).Alike (verify ⟨c, Certificate.unkeyed⟩)
      ∧ (verify ⟨Certificate.unkeyed, c⟩).FailsWith .keyExtractionError
      ∧ (verify ⟨Certificate.unkeyed, Certificate.unkeyed⟩).FailsWith .keyExtractionError := by
  intro c
  have hkey : ∀ b, HasKey ⟨c, b⟩ (.ed25519 Certificate.neutralPoint) := fun _ => rfl
  have hscheme : ¬ Algorithm.HasScheme Algorithm.ed25519 := by
    unfold Algorithm.HasScheme
    decide
  have hyes : Answers ⟨c, c⟩ (.ed25519 Certificate.neutralPoint) true :=
    .ed25519 (.unnamed hscheme) (by decide +kernel)
  have hyes' : Answers ⟨c, Certificate.unkeyed⟩ (.ed25519 Certificate.neutralPoint) true :=
    .ed25519 (.unnamed hscheme) (by decide +kernel)
  have hcheck : verify ⟨c, c⟩ = .ok ⟨c, c⟩ := verify_ok_iff.mpr ⟨rfl, _, hkey c, hyes⟩
  have hkeyless : (verify ⟨Certificate.unkeyed, c⟩).FailsWith .keyExtractionError :=
    verify_keyless_iff.mpr ⟨.unsupportedAlgorithm, rfl⟩
  refine ⟨hcheck, by decide, ?_, by decide, ?_, ⟨_, rfl⟩, ?_, hkeyless, ?_⟩
  · exact (verify_sees c Certificate.renewed c c).1 Certificate.decoded_sample
      Certificate.decoded_renewed rfl
  · exact (verify_sees c c c Certificate.frayed).2.1 Certificate.decoded_sample
      Certificate.decoded_frayed ⟨rfl, rfl, rfl⟩
  · refine (verify_sees c c c Certificate.unkeyed).2.2.1 Certificate.decoded_sample
      Certificate.decoded_unkeyed rfl fun key hother => ?_
    -- the key is the one that accepts both
    rw [hother.unique (hkey c)]
    exact ⟨fun _ => hyes', fun _ => hyes⟩
  · exact (verify_sees Certificate.unkeyed Certificate.unkeyed c Certificate.unkeyed).2.2.2.mp
      hkeyless

end Pair
end CertChain
