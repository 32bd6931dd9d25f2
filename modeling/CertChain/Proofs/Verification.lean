import CertChain.Pair
import CertChain.Proofs.Signature

/-!
# Verification is exact

A pair of certificates has one of four verdicts, and `Pair.verify_exact` says when it has
which, for every pair there is. The signer's key comes first: without one nothing else
matters. With a key it is `Checks` that decides: it says yes, it says no, or it says nothing.

Verdicts are told apart by what a caller sees of them. A success is the pair itself. Failures
are told by their codes, and the two kinds of them that have one code by their messages.
-/

namespace CertChain
namespace Pair

variable {pair : Pair} {key : PublicKey}

/-- The key that the signer's certificate certifies. -/
def HasKey (pair : Pair) (key : PublicKey) : Prop :=
  PublicKey.ofSubjectKey pair.signer.document.body.key = .ok key

/-- What a key says about the signature of the signee. -/
def Answers (pair : Pair) (key : PublicKey) (answer : Bool) : Prop :=
  Checks pair.signee.document key answer

/-- Verification fails, in a way that is told by code and message. -/
def FailsWith (pair : Pair) (code : ErrorCode) (message : String) : Prop :=
  ∃ f, pair.verify = .error f ∧ f.code = code ∧ f.message = message

/-! ### The key -/

/-- A certificate has one key at most. -/
theorem HasKey.unique {other : PublicKey} (h : pair.HasKey key) (h' : pair.HasKey other) :
    key = other := by
  have heq : Except.ok key = Except.ok other := h.symm.trans h'
  cases heq
  rfl

/-- With a key, verification is what the key says. -/
theorem HasKey.verify_eq (h : pair.HasKey key) : pair.verify = pair.verifyWith key := by
  rw [verify, Certificate.publicKey, h]
  rfl

/-- The failure of a signer without a key. -/
def keyless (e : PublicKey.Error) : Failure :=
  .because .keyExtractionError "Failed to extract public key from certificate"
    (Certificate.keyFault e)

/-- Without a key there is one failure, for every reason that a key can be missing. -/
theorem verify_of_keyless {e : PublicKey.Error}
    (h : PublicKey.ofSubjectKey pair.signer.document.body.key = .error e) :
    pair.verify = .error (keyless e) := by
  rw [verify, Certificate.publicKey, h]
  rfl

/-- A key that says yes makes a success of the pair. -/
theorem verifyWith_of_accepts (h : pair.Answers key true) : pair.verifyWith key = .ok pair := by
  rw [verifyWith, h.checkSignature_eq]

/-- A key that says no makes a failure that has no reason besides. -/
theorem verifyWith_of_rejects (h : pair.Answers key false) :
    pair.verifyWith key = .error rejected := by
  rw [verifyWith, h.checkSignature_eq]

/-- A key that says nothing makes a failure with the refusal as its reason. -/
theorem verifyWith_of_refuses (h : ∀ answer, ¬ pair.Answers key answer) :
    ∃ refusal, pair.verifyWith key = .error (refused refusal) := by
  obtain ⟨refusal, hrefusal⟩ := checkSignature_refuses_iff.mpr h
  refine ⟨refusal, ?_⟩
  rw [verifyWith, hrefusal]

/-! ### The four verdicts -/

/-- **What may come of a pair**, and when. -/
inductive Verdict (pair : Pair) : Outcome Pair → Prop where
  | keyless {e : PublicKey.Error}
      (hkey : PublicKey.ofSubjectKey pair.signer.document.body.key = .error e) :
      Verdict pair (.error (Pair.keyless e))
  | accepted {key : PublicKey} (hkey : pair.HasKey key) (hyes : pair.Answers key true) :
      Verdict pair (.ok pair)
  | rejected {key : PublicKey} (hkey : pair.HasKey key) (hno : pair.Answers key false) :
      Verdict pair (.error Pair.rejected)
  | refused {key : PublicKey} (refusal : Refusal) (hkey : pair.HasKey key)
      (hnone : ∀ answer, ¬ pair.Answers key answer) : Verdict pair (.error (Pair.refused refusal))

/-- Every pair has a verdict. -/
theorem verdict (pair : Pair) : Verdict pair pair.verify := by
  -- the key is looked for first, whatever the signee is
  cases hkey : PublicKey.ofSubjectKey pair.signer.document.body.key with
  | error e =>
    rw [verify_of_keyless hkey]
    exact .keyless hkey
  | ok key =>
    rw [HasKey.verify_eq hkey]
    -- the key says yes, or it says no, or neither
    by_cases hyes : pair.Answers key true
    · rw [verifyWith_of_accepts hyes]
      exact .accepted hkey hyes
    · by_cases hno : pair.Answers key false
      · rw [verifyWith_of_rejects hno]
        exact .rejected hkey hno
      · have hnone : ∀ answer, ¬ pair.Answers key answer := by
          intro answer
          cases answer with
          | true => exact hyes
          | false => exact hno
        obtain ⟨refusal, hrefused⟩ := verifyWith_of_refuses hnone
        rw [hrefused]
        exact .refused refusal hkey hnone

/-- The verdict on a pair whose outcome is known. -/
theorem verdict_of_eq {outcome : Outcome Pair} (h : pair.verify = outcome) :
    Verdict pair outcome :=
  h ▸ verdict pair

/-! ### What a caller sees -/

/-- The message of a signature that does not hold. -/
def rejectedMessage : String :=
  "Signer certificate does not sign signee certificate"

/-- The message of a signature that cannot be checked. -/
def refusedMessage : String :=
  "Signee signature cannot be checked with the signer's key"

/-- The two messages are different, which is how a caller tells the failures apart. -/
theorem rejectedMessage_ne : rejectedMessage ≠ refusedMessage := by
  decide

/-- A refusal is a fault of one of three kinds. -/
theorem kind_fault (refusal : Refusal) :
    refusal.fault.head.kind ∈ [Fault.Kind.type, Fault.Kind.value, .unsupportedAlgorithm] := by
  cases refusal <;> simp [Refusal.fault, Fault.ofText, Fault.head]

/-- A pair is verified exactly if the key of the signer says yes. -/
theorem verify_ok_iff {verified : Pair} :
    pair.verify = .ok verified
      ↔ verified = pair ∧ ∃ key, pair.HasKey key ∧ pair.Answers key true := by
  constructor
  · intro h
    -- of the four verdicts one is a success
    cases verdict_of_eq h with
    | accepted hkey hyes => exact ⟨rfl, _, hkey, hyes⟩
  · rintro ⟨rfl, key, hkey, hyes⟩
    rw [hkey.verify_eq, verifyWith_of_accepts hyes]

/-- The code of a missing key is that of nothing else. -/
theorem verify_keyless_iff :
    (∃ f, pair.verify = .error f ∧ f.code = .keyExtractionError)
      ↔ ∃ e, PublicKey.ofSubjectKey pair.signer.document.body.key = .error e := by
  constructor
  · rintro ⟨f, hf, hcode⟩
    cases verdict_of_eq hf with
    | keyless hkey => exact ⟨_, hkey⟩
    | rejected => cases hcode
    | refused => cases hcode
  · rintro ⟨e, hkey⟩
    exact ⟨keyless e, verify_of_keyless hkey, rfl⟩

/-- A signature is rejected exactly if the key says no. -/
theorem verify_rejected_iff :
    pair.FailsWith .verificationFailed rejectedMessage
      ↔ ∃ key, pair.HasKey key ∧ pair.Answers key false := by
  constructor
  · rintro ⟨f, hf, hcode, hmessage⟩
    -- the code leaves two verdicts, and the message one of them
    cases verdict_of_eq hf with
    | keyless => cases hcode
    | rejected hkey hno => exact ⟨_, hkey, hno⟩
    | refused => exact absurd hmessage.symm rejectedMessage_ne
  · rintro ⟨key, hkey, hno⟩
    refine ⟨rejected, ?_, rfl, rfl⟩
    rw [hkey.verify_eq, verifyWith_of_rejects hno]

/-- A check is refused exactly if the key says nothing. -/
theorem verify_refused_iff :
    pair.FailsWith .verificationFailed refusedMessage
      ↔ ∃ key, pair.HasKey key ∧ ∀ answer, ¬ pair.Answers key answer := by
  constructor
  · rintro ⟨f, hf, hcode, hmessage⟩
    cases verdict_of_eq hf with
    | keyless => cases hcode
    | rejected => exact absurd hmessage rejectedMessage_ne
    | refused _ hkey hnone => exact ⟨_, hkey, hnone⟩
  · rintro ⟨key, hkey, hnone⟩
    -- the refusal is one of those that there can be, and the message does not depend on it
    obtain ⟨refusal, hrefused⟩ := verifyWith_of_refuses hnone
    refine ⟨refused refusal, ?_, rfl, rfl⟩
    rw [hkey.verify_eq, hrefused]

/-- **Verification is exact and total.** Whatever the two certificates are, a success is the
pair itself and says that the signer's key accepts the signature. A failure is a missing key,
a signature that the key does not accept, or one about which the key says nothing; these are
all the failures there are, and the fault that each comes from is of a known kind. -/
theorem verify_exact (pair : Pair) :
    (∀ verified, pair.verify = .ok verified
      ↔ verified = pair ∧ ∃ key, pair.HasKey key ∧ pair.Answers key true)
    ∧ ((∃ f, pair.verify = .error f ∧ f.code = .keyExtractionError)
      ↔ ∃ e, PublicKey.ofSubjectKey pair.signer.document.body.key = .error e)
    ∧ (pair.FailsWith .verificationFailed rejectedMessage
      ↔ ∃ key, pair.HasKey key ∧ pair.Answers key false)
    ∧ (pair.FailsWith .verificationFailed refusedMessage
      ↔ ∃ key, pair.HasKey key ∧ ∀ answer, ¬ pair.Answers key answer)
    ∧ ∀ f, pair.verify = .error f →
      f.code = .keyExtractionError
      ∨ f.code = .verificationFailed ∧ f.message = rejectedMessage
          ∧ f.cause = some (.bare .invalidSignature)
      ∨ f.code = .verificationFailed ∧ f.message = refusedMessage
          ∧ ∃ fault, f.cause = some fault
            ∧ fault.head.kind ∈ [Fault.Kind.type, Fault.Kind.value, .unsupportedAlgorithm] := by
  refine ⟨fun _ => verify_ok_iff, verify_keyless_iff, verify_rejected_iff, verify_refused_iff, ?_⟩
  -- and the list is complete, since each of the three failing verdicts is in it
  intro f hf
  cases verdict_of_eq hf with
  | keyless => exact .inl rfl
  | rejected => exact .inr (.inl ⟨rfl, rfl, rfl⟩)
  | refused refusal => exact .inr (.inr ⟨rfl, rfl, refusal.fault, rfl, kind_fault refusal⟩)

end Pair
end CertChain
