import CertChain.Certificate.Detection
import CertChain.Log

/-!
# Loading certificates

A loader reads octets of unknown encoding, strictly or not, and puts on record what
came of it: one entry for each call, either that a certificate was loaded or that the
octets are none.
-/

namespace CertChain

/-- A loader. A strict one takes no octets that begin otherwise than a sequence. -/
structure Loader where
  strict : Bool := false
  deriving DecidableEq, Repr

namespace Loader

/-- The entry for an outcome of reading `size` octets. -/
def entry (size : Nat) : Outcome Certificate → Event
  | .ok c => .loaded c.subject c.issuer c.fingerprint
  | .error failure => .decodeFailed failure size

/-- **Reads a certificate**, and makes the entry. -/
def load {m : Type → Type} [Monad m] [MonadLog m] (loader : Loader) (input : Bytes) :
    m (Outcome Certificate) := do
  let outcome := Certificate.fromBytes loader.strict input
  MonadLog.record (entry input.length outcome)
  return outcome

end Loader
end CertChain
