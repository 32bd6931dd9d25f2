import CertChain.Proofs.Detection

/-!
# Strict and lenient readers

A strict reader refuses octets that begin neither as a text nor as a sequence. A lenient one
takes them for the octets of a certificate, and then they are none, because every certificate
begins as a sequence does. So the two readers accept the same octets, as the same
certificates (`Certificate.fromBytes_ok_iff`), and what they say of the others differs in that
one case only (`Unlike`, `Certificate.fromBytes_of_unlike`).
-/

namespace CertChain

/-- Octets that begin neither as a text nor as a sequence, and are enough to tell. -/
def Unlike (raw : Bytes) : Prop :=
  pemMarker.length ≤ raw.length ∧ raw.take pemMarker.length ≠ pemMarker
    ∧ raw.head? ≠ some Der.sequenceTag

namespace Certificate

variable {raw : Bytes}

/-- Octets that begin in one of the two ways, or are too few, are told alike by both readers. -/
theorem identify_of_not_unlike (h : ¬ Unlike raw) (strict : Bool) :
    identify strict raw = identify false raw := by
  -- of the four cases it is one of the first three, where strictness does not matter
  by_cases hlength : raw.length < pemMarker.length
  · rw [identify_of_short hlength, identify_of_short hlength]
  · have hlong := Nat.not_lt.mp hlength
    by_cases hmarker : raw.take pemMarker.length = pemMarker
    · rw [identify_of_marker hmarker, identify_of_marker hmarker]
    · by_cases hhead : raw.head? = some Der.sequenceTag
      · rw [identify_of_sequence hlong hhead, identify_of_sequence hlong hhead]
      · exact absurd ⟨hlong, hmarker, hhead⟩ h

/-- The two readers agree on all such octets, whatever becomes of them. -/
theorem fromBytes_of_not_unlike (h : ¬ Unlike raw) (strict : Bool) :
    fromBytes strict raw = fromBytes false raw := by
  unfold fromBytes
  rw [identify_of_not_unlike h strict]

/-- Whatever is read as a certificate begins as a sequence does. -/
theorem head?_of_readDer {c : Certificate} (h : readDer raw = .ok c) :
    raw.head? = some Der.sequenceTag := by
  rw [← toDer_of_readDer h]
  exact c.document.head?_write

/-- **The one difference.** The strict reader names the first octet, and the lenient one has
what the reader of documents says. -/
theorem fromBytes_of_unlike (h : Unlike raw) :
    ∃ first reason, raw.head? = some first
      ∧ fromBytes true raw = .error (unrecognized first)
      ∧ fromDer raw = .error reason ∧ reason.code = .decodeError
      ∧ fromBytes false raw = .error reason := by
  obtain ⟨hlength, hmarker, hhead⟩ := h
  cases raw with
  | nil => exact absurd hlength (by decide)
  | cons first rest =>
    have hfirst : first ≠ Der.sequenceTag := fun heq => hhead (congrArg some heq)
    have hidentify : ∀ strict, identify strict (first :: rest)
        = if strict then .error (unrecognized first) else .ok .der :=
      fun strict => identify_of_other hlength hmarker hfirst
    -- the lenient reader goes on to the document, which cannot be one
    cases hread : readDer (first :: rest) with
    | ok c => exact absurd (head?_of_readDer hread) hhead
    | error e =>
      have hder : fromDer (first :: rest) = .error (.because .decodeError
          ("Failed to decode " ++ Format.der.title ++ " certificate") e.fault) := by
        rw [fromDer, hread]
        rfl
      refine ⟨first, _, rfl, ?_, hder, rfl, ?_⟩
      · rw [fromBytes, hidentify]
        rfl
      · rw [fromBytes, hidentify]
        exact hder

/-- Neither reader takes the other octets for a certificate. -/
theorem fromBytes_fails_of_unlike (h : Unlike raw) (strict : Bool) :
    ∃ f, fromBytes strict raw = .error f := by
  obtain ⟨first, reason, -, hstrict, -, -, hlenient⟩ := fromBytes_of_unlike h
  cases strict with
  | true => exact ⟨_, hstrict⟩
  | false => exact ⟨_, hlenient⟩

/-- **Strictness never decides what is a certificate.** -/
theorem fromBytes_ok_iff (strict other : Bool) (c : Certificate) :
    fromBytes strict raw = .ok c ↔ fromBytes other raw = .ok c := by
  -- the octets that the readers disagree on are accepted by neither
  by_cases h : Unlike raw
  · obtain ⟨f, hf⟩ := fromBytes_fails_of_unlike h strict
    obtain ⟨g, hg⟩ := fromBytes_fails_of_unlike h other
    rw [hf, hg]
    constructor
    · intro h
      cases h
    · intro h
      cases h
  · rw [fromBytes_of_not_unlike h strict, fromBytes_of_not_unlike h other]

end Certificate

end CertChain
