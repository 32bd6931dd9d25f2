import CertChain.Pair
import CertChain.Proofs.Certificate.Decoder

/-!
# Two certificates are the same if their octets are

How a certificate came to be read leaves no trace in it. Two certificates that were read, by
whichever readers and from whatever they were read, are equal exactly if the same octets were
offered to the two readers; then they are written alike, and nobody can tell them apart, neither
by looking at them nor by using one in the place of the other in a pair
(`Certificate.same_iff_offered_same`).

A certificate keeps more than its octets, namely the parts they were taken into and the texts of
the names. For two arbitrary values of the type none of this would follow. It does for those
that were read since reading the octets of such a certificate gives back all of it
(`Decoder.readDer_of_read`). From the text of a certificate the octets can be told, because
that is what the reader of texts does.
-/

namespace CertChain
namespace Certificate

variable {c₁ c₂ : Certificate} {d₁ d₂ : Decoder} {raw₁ raw₂ : Bytes}

/-- **Nobody can tell two certificates apart**: their hashes, what is shown of them, and their
keys are alike, and in either place of any pair one does as well as the other. A check of the
pair has the same outcome then and makes the same entry. -/
structure SeenAlike (c₁ c₂ : Certificate) : Prop where
  hashed : hash c₁ = hash c₂
  subject : c₁.subject = c₂.subject
  issuer : c₁.issuer = c₂.issuer
  fingerprint : c₁.fingerprint = c₂.fingerprint
  shown : c₁.shown = c₂.shown
  publicKey : c₁.publicKey = c₂.publicKey
  signer_beq : ∀ (signee : Certificate) (pair : Pair),
    ((⟨c₁, signee⟩ : Pair) == pair) = ((⟨c₂, signee⟩ : Pair) == pair)
  signee_beq : ∀ (signer : Certificate) (pair : Pair),
    ((⟨signer, c₁⟩ : Pair) == pair) = ((⟨signer, c₂⟩ : Pair) == pair)
  signer_verify : ∀ signee : Certificate,
    ((⟨c₁, signee⟩ : Pair).verifyLogged : Logged _).collect
      = ((⟨c₂, signee⟩ : Pair).verifyLogged : Logged _).collect
  signee_verify : ∀ signer : Certificate,
    ((⟨signer, c₁⟩ : Pair).verifyLogged : Logged _).collect
      = ((⟨signer, c₂⟩ : Pair).verifyLogged : Logged _).collect

/-- Nobody can tell a certificate from itself. -/
theorem SeenAlike.refl (c : Certificate) : SeenAlike c c :=
  ⟨rfl, rfl, rfl, rfl, rfl, rfl, fun _ _ => rfl, fun _ _ => rfl, fun _ => rfl, fun _ => rfl⟩

/-- A certificate is told from every other one by the pairs it makes. -/
theorem SeenAlike.eq (h : SeenAlike c₁ c₂) : c₁ = c₂ := by
  -- the pair with the first one in both places is equal to itself, hence to the other one
  have hpair : ((⟨c₁, c₁⟩ : Pair) == ⟨c₂, c₁⟩) = true := by
    rw [h.signer_beq, beq_self_eq_true]
  exact congrArg Pair.signer (eq_of_beq hpair)

/-- **The octets are all there is** to a certificate that was read. -/
theorem eq_of_toDer (h₁ : readDer c₁.toDer = .ok c₁) (h₂ : readDer c₂.toDer = .ok c₂)
    (hsame : c₁.toDer = c₂.toDer) : c₁ = c₂ := by
  rw [hsame, h₂] at h₁
  exact (Except.ok.inj h₁).symm

/-- The octets can be told from the text. -/
theorem toDer_of_toPem (hsame : c₁.toPem = c₂.toPem) : c₁.toDer = c₂.toDer := by
  have hoffered : (Decoder.told .pem).offered c₁.toPem = (Decoder.told .pem).offered c₂.toPem :=
    congrArg _ hsame
  rw [show c₁.toPem = c₁.encode .pem from rfl, show c₂.toPem = c₂.encode .pem from rfl,
    Decoder.offered_encode, Decoder.offered_encode] at hoffered
  exact Option.some.inj hoffered

/-- **Certificates are the same if the same octets were offered**, whoever read them: if they
are written alike as octets, if they are written alike as texts, and if nobody can tell them
apart. -/
theorem same_iff_offered_same (h₁ : d₁.read raw₁ = .ok c₁) (h₂ : d₂.read raw₂ = .ok c₂) :
    ((c₁ == c₂) = true ↔ d₁.offered raw₁ = d₂.offered raw₂)
    ∧ ((c₁ == c₂) = true ↔ c₁.toDer = c₂.toDer)
    ∧ ((c₁ == c₂) = true ↔ c₁.toPem = c₂.toPem)
    ∧ ((c₁ == c₂) = true ↔ SeenAlike c₁ c₂) := by
  -- everything is decided by the octets, and each of the four sides gives them
  have hoctets : c₁.toDer = c₂.toDer → c₁ = c₂ :=
    eq_of_toDer (Decoder.readDer_of_read h₁) (Decoder.readDer_of_read h₂)
  rw [Decoder.offered_of_read h₁, Decoder.offered_of_read h₂, Option.some_inj, beq_iff_eq]
  refine ⟨⟨fun h => ?_, hoctets⟩, ⟨fun h => ?_, hoctets⟩, ⟨fun h => ?_, fun h => ?_⟩, fun h => ?_,
    SeenAlike.eq⟩
  · rw [h]
  · rw [h]
  · rw [h]
  · exact hoctets (toDer_of_toPem h)
  · rw [h]
    exact SeenAlike.refl c₂

/-- A certificate that a loader reads from its text, and one that is read from its octets. -/
theorem same_of_loaded_and_decoded :
    let c := sample Algorithm.ed25519
    (Decoder.loader ⟨true⟩).read (c.encode .pem) = .ok c
      ∧ (Decoder.told .der).read (c.encode .der) = .ok c
      ∧ (Decoder.loader ⟨true⟩).offered (c.encode .pem)
        = (Decoder.told .der).offered (c.encode .der)
      ∧ SeenAlike c c := by
  intro c
  -- a text and octets, and yet the same is offered
  have hloaded : (Decoder.loader ⟨true⟩).read (c.encode .pem) = .ok c :=
    Decoder.read_loader_encode decoded_sample ⟨true⟩ .pem
  have hdecoded : (Decoder.told .der).read (c.encode .der) = .ok c :=
    decode_encode decoded_sample.readDer_toDer .der
  obtain ⟨hoffered, -, -, hseen⟩ := same_iff_offered_same hloaded hdecoded
  have hsame : (c == c) = true := beq_self_eq_true c
  exact ⟨hloaded, hdecoded, hoffered.mp hsame, hseen.mp hsame⟩

end Certificate
end CertChain
