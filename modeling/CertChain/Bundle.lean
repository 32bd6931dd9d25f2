import CertChain.Pair

/-!
# Bundles

Whoever works with named certificates and pairs side by side may put anything in either
place of a pair, and may ask of anything what only certificates or only pairs can
answer. A `Bundle` is a certificate or a pair of bundles; its operations either answer,
or are the fault that says what is missing.

`Bundle.verify` asks the parts in the order in which they are needed: the first one for
its key, and only when there is one, the second one for its signature.
-/

namespace CertChain

/-- A certificate, or an ordered pair of bundles. -/
inductive Bundle where
  | certificate (c : Certificate)
  | pair (signer signee : Bundle)
  deriving DecidableEq

namespace Bundle

/-- The name of a bundle's kind. -/
def kindName : Bundle → String
  | .certificate _ => "Certificate"
  | .pair .. => "CertificatePair"

/-- The fault of a bundle that has no such part or operation. -/
def noMember (b : Bundle) (name : String) : Fault :=
  .ofText Fault.Kind.member ("'" ++ b.kindName ++ "' object has no attribute '" ++ name ++ "'")

/-- The certificate that a bundle is, for the sake of an operation. -/
def asCertificate (b : Bundle) (operation : String) : Except Fault Certificate :=
  match b with
  | .certificate c => .ok c
  | .pair .. => .error (b.noMember operation)

/-- A bundle in short. -/
def shown : Bundle → String
  | .certificate c => c.shown
  | .pair signer signee =>
    "CertificatePair(signer=" ++ signer.shown ++ ", signee=" ++ signee.shown ++ ")"

/-- The hash of a bundle; equal bundles have equal ones. -/
def hashed : Bundle → UInt64
  | .certificate c => hash c
  | .pair signer signee => mixHash signer.hashed signee.hashed

/-- The octets of a certificate, in an encoding. -/
def encode (b : Bundle) (format : Format) : Except Fault Bytes := do
  return (← b.asCertificate ("to_" ++ format.name)).encode format

/-- A certificate, written and read again. -/
def reread (b : Bundle) (format : Format) : Except Fault (Outcome Certificate) := do
  let c ← b.asCertificate "encode"
  return Certificate.decode format (c.encode format)

/-- The certificate anew, made from the document it wraps. -/
def rewrap (b : Bundle) : Except Fault Certificate :=
  b.asCertificate "x509"

/-- **Whether the first part signs the second.** -/
def verify : Bundle → Except Fault (Outcome Unit)
  | b@(.certificate _) => .error (b.noMember "signer")
  | .pair signer signee => do
    match (← signer.asCertificate "public_key").publicKey with
    | .error failure => return .error failure
    | .ok key =>
      let pair : Pair := ⟨← signer.asCertificate "x509", ← signee.asCertificate "x509"⟩
      match pair.verifyWith key with
      | .ok _ => return .ok ()
      | .error failure => return .error failure

end Bundle

end CertChain
