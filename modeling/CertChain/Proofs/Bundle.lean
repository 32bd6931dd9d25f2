import CertChain.Proofs.Certificate.InHand
import CertChain.Proofs.Verification

/-!
# What bundles answer

A bundle may be asked for anything, and has no answer to what only the other sort can do. Which
bundles answer is known from what they are: the questions of certificates are answered by
certificates, as they answer them themselves (`Bundle.encode_ok_iff`, `Bundle.rewrap_ok_iff`,
`Bundle.reread_of_decoded`), and a pair is verified if its parts are certificates.

For the last one less is enough. The signer is asked for its key first, and if it has none the
verification has failed before anybody looks at the signee, which may then be a pair as well
(`Bundle.exists_verify_iff`). On two certificates bundles and pairs agree (`Bundle.verify_pair`).
-/

namespace CertChain
namespace Bundle

variable {b : Bundle} {c : Certificate}

/-! ### Questions of certificates -/

/-- Only certificates pass for certificates. -/
theorem asCertificate_ok_iff {operation : String} :
    b.asCertificate operation = .ok c ↔ b = .certificate c := by
  cases b with
  | certificate other =>
    constructor
    · intro h
      cases h
      rfl
    · intro h
      cases h
      rfl
  | pair signer signee => exact ⟨fun h => (nomatch h), fun h => (nomatch h)⟩

/-- A certificate is encoded, and a pair is not. -/
theorem encode_ok_iff {format : Format} {octets : Bytes} :
    b.encode format = .ok octets ↔ ∃ c, b = .certificate c ∧ octets = c.encode format := by
  rw [encode, map_ok_iff]
  simp only [asCertificate_ok_iff]

/-- A certificate is made anew from its document, and is the same. -/
theorem rewrap_ok_iff : b.rewrap = .ok c ↔ b = .certificate c :=
  asCertificate_ok_iff

/-- **A certificate that was read is read again** from what is written of it, in either form. -/
theorem reread_of_decoded (h : Certificate.Decoded c) (format : Format) :
    (certificate c).reread format = .ok (.ok c) :=
  congrArg Except.ok (Certificate.decode_encode h.readDer_toDer format)

/-! ### Verification -/

/-- **Two certificates are verified as a pair of them**, but for what a success carries. -/
theorem verify_pair (signer signee : Certificate) :
    (pair (.certificate signer) (.certificate signee)).verify
      = .ok ((fun _ => ()) <$> (⟨signer, signee⟩ : Pair).verify) := by
  rw [verify, Pair.verify]
  simp only [asCertificate, bind, Except.bind]
  cases signer.publicKey with
  | error failure => rfl
  | ok key =>
    dsimp only
    cases (⟨signer, signee⟩ : Pair).verifyWith key <;> rfl

/-- **Where verification has an answer**: the signer is a certificate, and so is the signee, unless
the signer has no key. -/
theorem exists_verify_iff : (∃ outcome, b.verify = .ok outcome)
    ↔ ∃ signer signee, b = .pair (.certificate signer) signee
      ∧ ∀ key, signer.publicKey = .ok key → ∃ c, signee = .certificate c := by
  cases b with
  | certificate c => exact ⟨fun ⟨_, h⟩ => (nomatch h), fun ⟨_, _, h, _⟩ => (nomatch h)⟩
  | pair first signee =>
    cases first with
    | pair _ _ => exact ⟨fun ⟨_, h⟩ => (nomatch h), fun ⟨_, _, h, _⟩ => (nomatch h)⟩
    | certificate signer =>
      constructor
      · rintro ⟨outcome, h⟩
        refine ⟨signer, signee, rfl, fun key hkey => ?_⟩
        -- with a key the signee is asked for its document
        rw [verify] at h
        simp only [asCertificate, bind, Except.bind, hkey] at h
        cases signee with
        | certificate c => exact ⟨c, rfl⟩
        | pair _ _ => cases h
      · rintro ⟨_, _, heq, hsignee⟩
        cases heq
        cases hkey : signer.publicKey with
        | error failure =>
          refine ⟨.error failure, ?_⟩
          rw [verify]
          simp only [asCertificate, bind, Except.bind, hkey]
          rfl
        | ok key =>
          obtain ⟨c, rfl⟩ := hsignee key hkey
          exact ⟨_, verify_pair signer c⟩

end Bundle
end CertChain
