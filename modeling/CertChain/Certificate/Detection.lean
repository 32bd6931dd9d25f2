import CertChain.Certificate

/-!
# Certificates of unknown encoding

The encoding of octets is told from their beginning: what starts with the line that
opens a certificate's block is a text, and everything else is taken for the octets of a
certificate. A strict reader insists that those begin as a sequence does. Either way
the octets must be as many as the marker has.
-/

namespace CertChain

/-- The octets that a certificate in text begins with. -/
def pemMarker : Bytes :=
  Bytes.ofText "-----BEGIN CERTIFICATE-----"

/-- Too few octets to tell. -/
def tooShort (input : Bytes) : Failure :=
  .plain .inputTooShort
    ("Certificate buffer is " ++ toString input.length ++ " bytes, at least "
      ++ toString pemMarker.length ++ " are needed to identify its format")

/-- Octets that begin neither as a text nor as a sequence. -/
def unrecognized (first : UInt8) : Failure :=
  .plain .unrecognizedEncoding
    ("Buffer is neither PEM nor DER (first byte 0x" ++ Bytes.hex [first] ++ ", expected 0x30)")

/-- **The encoding of octets.** -/
def identify (strict : Bool) (input : Bytes) : Outcome Format :=
  if input.length < pemMarker.length then .error (tooShort input)
  else if input.take pemMarker.length = pemMarker then .ok .pem
  else
    match input with
    | first :: _ =>
      if strict ∧ first ≠ Der.sequenceTag then .error (unrecognized first) else .ok .der
    | [] => .ok .der

/-- **The certificate in octets of unknown encoding**, or the first of the two failures
that may occur on the way. -/
def Certificate.fromBytes (strict : Bool) (input : Bytes) : Outcome Certificate := do
  Certificate.decode (← identify strict input) input

end CertChain
