import CertChain.Proofs.Certificate

/-!
# The encoding of a certificate is told from its octets

`identify` looks at the number of octets and at the first of them, and this file says what it
answers in the four cases there are: too few octets, octets that begin as the marker does,
octets that begin as a sequence does, and any others. Strictness matters in the last case
only.

Written certificates are in the two cases in the middle. The text begins with the marker,
octet for octet. The octets of a document begin with the tag of a sequence, which is not how
the marker begins, and are longer than the marker. So a certificate is read back from both of
its forms by a reader that is told neither of them (`Certificate.fromBytes_encode`).
-/

namespace CertChain

/-! ### The four cases -/

section Cases

variable {strict : Bool} {input : Bytes}

/-- The marker has as many octets as an input needs to be looked at. -/
theorem length_pemMarker : pemMarker.length = 27 := by
  decide

/-- An input that is shorter than the marker is refused, whatever it begins with. -/
theorem identify_of_short (h : input.length < pemMarker.length) :
    identify strict input = .error (tooShort input) := by
  rw [identify.eq_def]
  exact if_pos h

/-- An input that begins as the marker does is text. -/
theorem identify_of_marker (h : input.take pemMarker.length = pemMarker) :
    identify strict input = .ok .pem := by
  -- what begins as the marker does is at least as long
  have hlength : ¬ input.length < pemMarker.length := by
    have hle := congrArg List.length h
    rw [List.length_take] at hle
    omega
  rw [identify.eq_def, if_neg hlength]
  exact if_pos h

theorem identify_of_prefix (h : pemMarker <+: input) : identify strict input = .ok .pem :=
  identify_of_marker (List.prefix_iff_eq_take.mp h).symm

/-- Nothing that begins as a sequence begins as the marker does. -/
theorem take_ne_pemMarker (h : input.head? = some Der.sequenceTag) :
    input.take pemMarker.length ≠ pemMarker := by
  intro hmarker
  -- the first octets would be the same, but one is a tag and the other a dash
  have hhead : input.head? = pemMarker.head? := by
    rw [← hmarker, List.head?_take, length_pemMarker]
    rfl
  rw [h] at hhead
  exact absurd hhead (by decide)

/-- An input that is long enough and begins as a sequence does is a document, for all readers. -/
theorem identify_of_sequence (hlength : pemMarker.length ≤ input.length)
    (hhead : input.head? = some Der.sequenceTag) : identify strict input = .ok .der := by
  obtain ⟨rest, rfl⟩ : ∃ rest, input = Der.sequenceTag :: rest := List.head?_eq_some_iff.mp hhead
  -- the marker is asked for first, and the tag is looked at only if it is missing
  rw [identify.eq_def, if_neg (Nat.not_lt.mpr hlength), if_neg (take_ne_pemMarker hhead)]
  exact if_neg fun h => h.2 rfl

/-- **Other octets**: a strict reader refuses them, and a lenient one leaves that to the
reader of certificates. -/
theorem identify_of_other {first : UInt8} {rest : Bytes}
    (hlength : pemMarker.length ≤ (first :: rest).length)
    (hmarker : (first :: rest).take pemMarker.length ≠ pemMarker)
    (hfirst : first ≠ Der.sequenceTag) :
    identify strict (first :: rest) = if strict then .error (unrecognized first) else .ok .der := by
  rw [identify.eq_def, if_neg (Nat.not_lt.mpr hlength), if_neg hmarker]
  -- only a strict reader looks at the tag
  cases strict with
  | true => exact if_pos ⟨rfl, hfirst⟩
  | false => exact if_neg fun h => Bool.false_ne_true h.1

end Cases

/-! ### Written certificates -/

namespace Certificate

variable (c : Certificate) (strict : Bool)

/-- The text of a certificate begins with the marker. -/
theorem pemMarker_prefix_toPem : pemMarker <+: c.toPem := by
  have hmarker : Pem.beginMarker ++ Bytes.ofText "CERTIFICATE" ++ Pem.dashes = pemMarker := by
    decide
  refine ⟨[0x0A] ++ Pem.body c.toDer ++ Pem.endMarker ++ Bytes.ofText "CERTIFICATE" ++ Pem.dashes
    ++ [0x0A], ?_⟩
  rw [toPem, Pem.write, hmarker]
  simp only [Pem.body, List.append_assoc]

/-- The text of a certificate is found to be text. -/
theorem identify_toPem : identify strict c.toPem = .ok .pem :=
  identify_of_prefix c.pemMarker_prefix_toPem

/-- The document of a certificate is found to be one. -/
theorem identify_toDer : identify strict c.toDer = .ok .der := by
  -- a document cannot be as short as the marker
  have hlong : 34 ≤ c.toDer.length := c.document.length_write
  refine identify_of_sequence ?_ c.document.head?_write
  rw [length_pemMarker]
  omega

/-- What is written in a format is found to be in it. -/
theorem identify_encode (format : Format) : identify strict (c.encode format) = .ok format := by
  cases format with
  | pem => exact c.identify_toPem strict
  | der => exact c.identify_toDer strict

/-- A certificate that was ever read is read again from what is written of it. -/
theorem Decoded.fromBytes_eq {c : Certificate} (h : Decoded c) (format : Format) (strict : Bool) :
    fromBytes strict (c.encode format) = .ok c := by
  rw [fromBytes, c.identify_encode strict format]
  exact decode_encode h.readDer_toDer format

/-- **Detection and decoding undo encoding**, for every certificate that was ever read, for
both of its forms, and for strict and lenient readers. -/
theorem fromBytes_encode {c : Certificate} (h : Decoded c) (format : Format) (strict : Bool) :
    identify strict (c.encode format) = .ok format
      ∧ fromBytes strict (c.encode format) = .ok c := by
  have hformat := c.identify_encode strict format
  exact ⟨hformat, h.fromBytes_eq format strict⟩

/-- A certificate of its own making, as text and before a strict reader. -/
theorem fromBytes_encode_sample :
    Decoded (sample Algorithm.ed25519)
      ∧ identify true ((sample Algorithm.ed25519).encode .pem) = .ok .pem
      ∧ fromBytes true ((sample Algorithm.ed25519).encode .pem)
        = .ok (sample Algorithm.ed25519) :=
  ⟨decoded_sample, fromBytes_encode decoded_sample .pem true⟩

end Certificate
end CertChain
