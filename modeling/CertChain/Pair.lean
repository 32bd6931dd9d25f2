import CertChain.Certificate
import CertChain.Log
import CertChain.Signature.Check

/-!
# Signer and signee

One edge of a chain of trust: two certificates, of which the first is claimed to have
signed the second. `Pair.verify` finds out. It looks at nothing of the signer but the
key, and at nothing of the signee but the signature and what is signed; names, dates and
extensions are for others to judge.

There are four answers. The signature holds; the signer's key cannot be decoded; the
signature does not hold; or the key and the signature do not fit, so that there is
nothing to check.
-/

namespace CertChain

/-- Two certificates; the first one's key is to validate the second one's signature. -/
structure Pair where
  signer : Certificate
  signee : Certificate
  deriving DecidableEq

namespace Pair

variable (pair : Pair)

/-- A signature that does not hold. -/
def rejected : Failure :=
  .because .verificationFailed "Signer certificate does not sign signee certificate"
    (.bare .invalidSignature)

/-- A signature that cannot be checked. -/
def refused (refusal : Refusal) : Failure :=
  .because .verificationFailed "Signee signature cannot be checked with the signer's key"
    refusal.fault

/-- Whether a key validates the signature of the pair's second certificate. -/
def verifyWith (key : PublicKey) : Outcome Pair :=
  match checkSignature key pair.signee.document with
  | .ok true => .ok pair
  | .ok false => .error rejected
  | .error refusal => .error (refused refusal)

/-- **Whether the first certificate signs the second.** A success is the pair itself. -/
def verify : Outcome Pair := do
  pair.verifyWith (← pair.signer.publicKey)

/-- The entry for an outcome of the check. -/
def entry : Outcome Pair → Event
  | .ok verified => .verified verified.signer.subject verified.signee.subject
  | .error failure => .verifyFailed failure pair.signer.subject pair.signee.subject

/-- Checks the pair, and makes the entry. -/
def verifyLogged {m : Type → Type} [Monad m] [MonadLog m] : m (Outcome Pair) := do
  let outcome := pair.verify
  MonadLog.record (pair.entry outcome)
  return outcome

/-- A pair in short. -/
def shown : String :=
  "CertificatePair(signer=" ++ pair.signer.shown ++ ", signee=" ++ pair.signee.shown ++ ")"

/-- Equal pairs have equal hashes. -/
instance : Hashable Pair := ⟨fun pair => mixHash (hash pair.signer) (hash pair.signee)⟩

end Pair
end CertChain
