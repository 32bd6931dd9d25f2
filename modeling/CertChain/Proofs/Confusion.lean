import CertChain.Proofs.Verification

/-!
# Keys and the algorithms they are for

A key is made for certain signature algorithms (`PublicKey.signatureIds`), and a signature
says which one it was made with. One would want that no key validates a signature of any
other algorithm, whatever the octets of the signature are (`Pair.KeepsApart`), because the
identifier beside a signature is not signed itself.

That is not so. Algorithms of RSA and of ECDSA name a scheme, and schemes are told apart. All
others, known or not, have the one scheme without name, and what a key is told about them is
only that. An Edwards key therefore takes the signature for one of its own, and a DSA key
does so where the identifier has a hash function.

`Pair.Confused` lists the ways in which this comes about, and `Pair.keepsApart_iff` says that
they are all: unless a pair is confused, it is as one would want it. There the signature
holds for the key by the rules of the key's own algorithm, so what is confused is its name.
-/

namespace CertChain

/-! ### The algorithms of a key -/

/-- The signature algorithms of DSA. -/
def Algorithm.dsaSignatures : List Oid :=
  [dsaWithSha1, dsaWithSha224, dsaWithSha256, dsaWithSha384, dsaWithSha512]

/-- The identifiers of the signature algorithms that a kind of key is for. -/
def PublicKey.signatureIds : PublicKey → List Oid
  | .rsa .. => Algorithm.rsaPss :: Algorithm.rsaWithMd5 :: Algorithm.rsaSignatures
  | .ellipticCurve .. => Algorithm.ecdsaWithSha1 :: Algorithm.ecdsaSignatures
  | .dsa .. => Algorithm.dsaSignatures
  | .ed25519 _ => [Algorithm.ed25519]
  | .ed448 _ => [Algorithm.ed448]
  | .x25519 _ => []
  | .x448 _ => []

/-- Whether an algorithm has a scheme is looked up in finite lists. -/
instance (id : Oid) : Decidable (Algorithm.HasScheme id) :=
  inferInstanceAs (Decidable (_ ∨ _ ∨ _))

/-- Identifiers without scheme whose hash function makes a DSA key take them for its own,
though they belong to RSA and to ECDSA. -/
def dsaLookalikes : List (Oid × HashFunction) :=
  [(Algorithm.rsaWithMd5, .md5), (Algorithm.ecdsaWithSha1, .sha1)]

namespace Pair

variable {pair : Pair}

/-- What the signee says its signature is made with. -/
def signatureId (pair : Pair) : Oid :=
  pair.signee.document.algorithm.id

/-- The key validates no signature of algorithms that it is not for. -/
def KeepsApart (pair : Pair) : Prop :=
  (∀ verified, pair.verify = .ok verified →
    ∃ key, pair.HasKey key ∧ pair.signatureId ∈ key.signatureIds)
  ∧ ∀ key, pair.HasKey key → pair.signatureId ∉ key.signatureIds →
    ∃ f, pair.verify = .error f ∧ f.code = .verificationFailed

/-- **A key takes a signature for one of its own**, and as such the signature holds. -/
inductive Confused (pair : Pair) : Prop where
  | ed25519 {octets : Bytes} (hkey : pair.HasKey (.ed25519 octets))
      (hother : pair.signatureId ≠ Algorithm.ed25519)
      (hscheme : ¬ Algorithm.HasScheme pair.signatureId)
      (hverify : Eddsa.verify25519 octets pair.signee.document.body.write
        pair.signee.document.signature.octets = true)
  | ed448 {octets : Bytes} (hkey : pair.HasKey (.ed448 octets))
      (hother : pair.signatureId ≠ Algorithm.ed448)
      (hscheme : ¬ Algorithm.HasScheme pair.signatureId)
      (hverify : Eddsa.verify448 octets pair.signee.document.body.write
        pair.signee.document.signature.octets = true)
  | dsa {domain : DsaDomain} {y : Nat} {hash : HashFunction} (hkey : pair.HasKey (.dsa domain y))
      (hother : (pair.signatureId, hash) ∈ dsaLookalikes)
      (hverify : Dsa.verify domain y hash pair.signee.document.body.write
        pair.signee.document.signature.octets = true)

/-! ### What a DSA key takes for its own -/

/-- An identifier with a hash function has a scheme, or is one of DSA, or looks like one. -/
theorem mem_signatureHashes :
    ∀ entry ∈ signatureHashes, Algorithm.HasScheme entry.1 ∨ entry.1 ∈ Algorithm.dsaSignatures
      ∨ ∀ hash ∈ entry.2, (entry.1, hash) ∈ dsaLookalikes := by
  decide

/-- What looks like DSA has no scheme and is not of DSA, and its hash function is in the table. -/
theorem mem_dsaLookalikes :
    ∀ entry ∈ dsaLookalikes, ¬ Algorithm.HasScheme entry.1
      ∧ entry.1 ∉ Algorithm.dsaSignatures
      ∧ signatureHashes.lookup entry.1 = some (some entry.2) := by
  decide

/-- Without a scheme, the hash function of an algorithm that is none of DSA is that of one
which looks like DSA. -/
theorem mem_dsaLookalikes_of_names {a : Algorithm} {hash : HashFunction}
    (hscheme : ¬ Algorithm.HasScheme a.id) (hdsa : a.id ∉ Algorithm.dsaSignatures)
    (hhash : HashFunction.Names a hash) : (a.id, hash) ∈ dsaLookalikes := by
  cases hhash with
  | inParameters hid => exact absurd (.inl hid) hscheme
  | byIdentifier _ hlookup =>
    rcases mem_signatureHashes _ (mem_of_lookup hlookup) with h | h | h
    · exact absurd h hscheme
    · exact absurd h hdsa
    · exact h hash rfl

/-! ### Confusion -/

/-- Confusion is a key that answers yes about an algorithm that it is not for. -/
theorem confused_iff :
    pair.Confused ↔ ∃ key, pair.HasKey key ∧ pair.Answers key true
      ∧ pair.signatureId ∉ key.signatureIds := by
  constructor
  · intro h
    cases h with
    | ed25519 hkey hother hscheme hverify =>
      refine ⟨_, hkey, .ed25519 (.unnamed hscheme) hverify, ?_⟩
      intro hmem
      exact hother (List.mem_singleton.mp hmem)
    | ed448 hkey hother hscheme hverify =>
      refine ⟨_, hkey, .ed448 (.unnamed hscheme) hverify, ?_⟩
      intro hmem
      exact hother (List.mem_singleton.mp hmem)
    | dsa hkey hother hverify =>
      -- the table of hash functions has the identifier, though no scheme goes with it
      obtain ⟨hscheme, hdsa, hlookup⟩ := mem_dsaLookalikes _ hother
      have hhash : HashFunction.Names pair.signee.document.algorithm _ :=
        .byIdentifier (fun hpss => hscheme (.inl hpss)) hlookup
      exact ⟨_, hkey, .dsa (.unnamed hscheme) hhash hverify, hdsa⟩
  · rintro ⟨key, hkey, hyes, hother⟩
    cases hyes with
    | rsaFixed hscheme =>
      -- a key that fits a scheme is for every algorithm that names the scheme
      cases hscheme with
      | rsaFixed hid => exact absurd (.tail _ (.tail _ hid)) hother
    | rsaSalted hscheme =>
      cases hscheme with
      | rsaSalted hid =>
        refine absurd ?_ hother
        rw [signatureId, hid]
        exact List.mem_cons_self
    | ecdsa hscheme =>
      cases hscheme with
      | ecdsa hid => exact absurd (.tail _ hid) hother
    | ed25519 hscheme hverify =>
      cases hscheme with
      | unnamed hscheme =>
        exact .ed25519 hkey (fun heq => hother (List.mem_singleton.mpr heq)) hscheme hverify
    | ed448 hscheme hverify =>
      cases hscheme with
      | unnamed hscheme =>
        exact .ed448 hkey (fun heq => hother (List.mem_singleton.mpr heq)) hscheme hverify
    | dsa hscheme hhash hverify =>
      cases hscheme with
      | unnamed hscheme =>
        exact .dsa hkey (mem_dsaLookalikes_of_names hscheme hother hhash) hverify

/-- **Algorithms are kept apart exactly where no key is confused.** -/
theorem keepsApart_iff (pair : Pair) : pair.KeepsApart ↔ ¬ pair.Confused := by
  rw [confused_iff]
  constructor
  · rintro ⟨haccepted, -⟩ ⟨key, hkey, hyes, hother⟩
    -- a yes is a success, and a success is promised for algorithms of the key only
    obtain ⟨other, hsame, hmem⟩ := haccepted pair (verify_ok_iff.mpr ⟨rfl, key, hkey, hyes⟩)
    rw [hsame.unique hkey] at hmem
    exact hother hmem
  · intro hnone
    refine ⟨?_, ?_⟩
    · intro verified hverified
      obtain ⟨-, key, hkey, hyes⟩ := verify_ok_iff.mp hverified
      by_contra hother
      exact hnone ⟨key, hkey, hyes, fun hmem => hother ⟨key, hkey, hmem⟩⟩
    · intro key hkey hother
      rw [hkey.verify_eq]
      -- the key cannot say yes, and both other answers are failures of verification
      by_cases hno : pair.Answers key false
      · exact ⟨rejected, verifyWith_of_rejects hno, rfl⟩
      · have hsilent : ∀ answer, ¬ pair.Answers key answer := by
          intro answer hanswer
          cases answer with
          | true => exact hnone ⟨key, hkey, hanswer, hother⟩
          | false => exact hno hanswer
        obtain ⟨refusal, hrefused⟩ := verifyWith_of_refuses hsilent
        exact ⟨refused refusal, hrefused, rfl⟩

/-- The signer of a pair of small certificates has the Edwards key with the neutral point. -/
theorem hasKey_sample (id other : Oid) :
    HasKey ⟨Certificate.sample id, Certificate.sample other⟩ (.ed25519 Certificate.neutralPoint) :=
  rfl

/-- **An Ed25519 key is confused** by a signature that is said to be made with X25519, which
makes none. -/
theorem not_keepsApart_x25519 :
    let pair : Pair :=
      ⟨Certificate.sample Algorithm.ed25519, Certificate.sample Algorithm.x25519⟩
    pair.signer.Decoded ∧ pair.signee.Decoded ∧ pair.signatureId = Algorithm.x25519
      ∧ pair.verify = .ok pair ∧ ¬ pair.KeepsApart := by
  intro pair
  -- the signature holds under the rules of Ed25519, and nothing looks at what it is said to be
  have hread : Certificate.readDer pair.signee.toDer = .ok pair.signee := by
    decide +kernel
  have hkey : pair.HasKey (.ed25519 Certificate.neutralPoint) := hasKey_sample _ _
  have hother : pair.signatureId ∉ [Algorithm.ed25519] := by decide
  have hscheme : ¬ Algorithm.HasScheme pair.signatureId := by decide
  have hholds : Eddsa.verify25519 Certificate.neutralPoint pair.signee.document.body.write
      pair.signee.document.signature.octets = true := by
    decide +kernel
  have hverify : pair.verify = .ok pair :=
    verify_ok_iff.mpr ⟨rfl, _, hkey, .ed25519 (.unnamed hscheme) hholds⟩
  refine ⟨Certificate.decoded_sample, .der (Certificate.fromDer_toDer hread), rfl, hverify, ?_⟩
  rintro ⟨haccepted, -⟩
  obtain ⟨key, hsame, hmem⟩ := haccepted pair hverify
  rw [hsame.unique hkey] at hmem
  exact hother hmem

end Pair
end CertChain
