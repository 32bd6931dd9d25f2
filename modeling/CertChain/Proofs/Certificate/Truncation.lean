import CertChain.Proofs.Certificate.Armour
import CertChain.Proofs.Der.Extent
import CertChain.Proofs.Pem.Extent

/-!
# Cut certificates

What is left of a certificate when its end is missing is not another certificate, and neither
is what something was added to (`Certificate.cut_or_continued`).

Both come down to one property of each of the two forms. The octets of a document say how many
they are, so no document continues another one (`Document.read_append`). A block ends in the
dashes of its last line and is none without them (`Pem.firstLabelled_cut`). Only the line feed
behind these dashes can be missed.

How a cut certificate is refused depends on how much is left of it: below the length of the
marker its encoding is not told any more. A whole certificate is never as short as that.
-/

namespace CertChain
namespace Certificate

variable {c : Certificate} {input cut : Bytes}

/-! ### Octets -/

/-- The octets that are read as a certificate are read as its document. -/
theorem document_of_readDer (h : readDer input = .ok c) : Document.read input = .ok c.document := by
  unfold readDer at h
  split at h
  · cases h
  · rename_i document hread
    rw [hread, document_of_ofDocument h]

/-- **No certificate continues another one.** -/
theorem fromDer_append (h : readDer input = .ok c) {more : Bytes} (hmore : more ≠ []) :
    (fromDer (input ++ more)).FailsWith .decodeError := by
  refine outcomeOf_failsWith_iff.mpr ⟨.encoding .trailingData, ?_⟩
  rw [readDer, Document.read_append (document_of_readDer h) hmore]

/-- The beginning of a certificate is no certificate. -/
theorem fromDer_cut (h : Decoded c) (hwhole : input ++ cut = c.toDer) (hcut : cut ≠ []) :
    (fromDer input).FailsWith .decodeError := by
  rw [fromDer, outcomeOf_failsWith_iff]
  cases hread : readDer input with
  | error e => exact ⟨e, rfl⟩
  | ok other =>
    -- the whole would be what is left of it and something more
    have hfails := fromDer_append hread hcut
    rw [hwhole, fromDer_toDer h.readDer_toDer] at hfails
    exact absurd hfails Outcome.not_failsWith_ok

/-! ### Texts -/

/-- The line feed at the end of a text may be missing. -/
theorem fromPem_of_feed (h : Decoded c) (hwhole : input ++ [0x0A] = c.toPem) :
    fromPem input = .ok c := by
  have hextent : input = Pem.extent "CERTIFICATE" c.toDer := by
    rw [toPem, Pem.write_eq] at hwhole
    exact List.append_cancel_right hwhole
  apply fromPem_of_firstLabelled h.readDer_toDer
  -- nothing stands behind the last dash
  rw [hextent, ← List.append_nil (Pem.extent _ _),
    Pem.firstLabelled_extent_append isLabel_certificate (by decide), Pem.read_nil]
  rfl

/-- Apart from that, a text is read only if all of it is there. -/
theorem fromPem_cut (hwhole : input ++ cut = c.toPem) (hcut : cut ≠ []) (hfeed : cut ≠ [0x0A]) :
    (fromPem input).FailsWith .decodeError :=
  fromPem_of_error (Pem.firstLabelled_cut isLabel_certificate hwhole hcut hfeed labels)

/-! ### Both forms -/

/-- **Nothing of a certificate is missing**, but for the line feed at the end of a text. -/
def IsWhole (c : Certificate) (format : Format) (input : Bytes) : Prop :=
  input = c.encode format ∨ format = .pem ∧ input ++ [0x0A] = c.encode format

/-- How what is left of a certificate is refused. The marker has 27 octets
(`length_pemMarker`). -/
def cutCode (input : Bytes) : ErrorCode :=
  if input.length < pemMarker.length then .inputTooShort else .decodeError

/-- A whole certificate is decoded. -/
theorem decode_of_isWhole (h : Decoded c) {format : Format} (hwhole : c.IsWhole format input) :
    decode format input = .ok c := by
  rcases hwhole with rfl | ⟨rfl, hfeed⟩
  · exact decode_encode h.readDer_toDer format
  · exact fromPem_of_feed h hfeed

/-- What is less than whole is not decoded. -/
theorem decode_cut (h : Decoded c) {format : Format} (hpart : input <+: c.encode format)
    (hcut : ¬ c.IsWhole format input) : (decode format input).FailsWith .decodeError := by
  obtain ⟨cut, hwhole⟩ := hpart
  -- if nothing were missing it would be whole
  have hne : cut ≠ [] := by
    rintro rfl
    rw [List.append_nil] at hwhole
    exact hcut (.inl hwhole)
  cases format with
  | der => exact fromDer_cut h hwhole hne
  | pem =>
    refine fromPem_cut hwhole hne ?_
    rintro rfl
    exact hcut (.inr ⟨rfl, hwhole⟩)

/-- The encoding is told from what is left, as long as that is enough to tell it. -/
theorem identify_of_prefix_encode {format : Format} (hpart : input <+: c.encode format)
    (hlength : pemMarker.length ≤ input.length) (strict : Bool) :
    identify strict input = .ok format := by
  cases format with
  | pem =>
    exact identify_of_prefix
      (List.prefix_of_prefix_length_le c.pemMarker_prefix_toPem hpart hlength)
  | der =>
    refine identify_of_sequence hlength ?_
    -- what is left is not empty, so its first octet is the document's
    obtain ⟨cut, hwhole⟩ := hpart
    have hne : input ≠ [] := by
      rintro rfl
      exact absurd hlength (by decide)
    rw [← List.head?_append_of_ne_nil input hne, hwhole]
    exact c.document.head?_write

/-- A whole certificate is long enough. -/
theorem length_of_isWhole {format : Format} (hwhole : c.IsWhole format input) :
    pemMarker.length ≤ input.length := by
  rcases hwhole with rfl | ⟨rfl, hfeed⟩
  · cases format with
    | pem => exact c.pemMarker_prefix_toPem.length_le
    | der =>
      have hlong : 34 ≤ c.toDer.length := c.document.length_write
      rw [length_pemMarker]
      exact Nat.le_trans (by decide) hlong
  · by_contra hshort
    have hmarker : pemMarker <+: input ++ [0x0A] := hfeed ▸ c.pemMarker_prefix_toPem
    -- a text that is shorter by the line feed only would be the marker, which ends in a dash
    have hlength : pemMarker.length = (input ++ [0x0A]).length := by
      have hle := hmarker.length_le
      rw [List.length_append, List.length_singleton] at hle ⊢
      omega
    have hlast := congrArg List.getLast? (hmarker.eq_of_length hlength)
    rw [List.getLast?_concat] at hlast
    exact absurd hlast (by decide)

/-- **No other certificate comes of one** when it is cut or continued. Of what is left of it,
in either form and for strict and lenient readers, only the whole is read, and it is read as
this certificate. -/
theorem cut_or_continued (h : Decoded c) :
    (∀ format strict input, input <+: c.encode format →
      (c.IsWhole format input → fromBytes strict input = .ok c)
      ∧ (¬ c.IsWhole format input → (fromBytes strict input).FailsWith (cutCode input)))
    ∧ ∀ more, more ≠ [] → (fromDer (c.toDer ++ more)).FailsWith .decodeError := by
  refine ⟨fun format strict input hpart => ?_, fun more => fromDer_append h.readDer_toDer⟩
  -- the two codes meet at the length of the marker, and nothing whole is below it
  rcases Nat.lt_or_ge input.length pemMarker.length with hshort | hlong
  · refine ⟨fun hwhole => ?_, fun _ => ?_⟩
    · exact absurd (length_of_isWhole hwhole) (Nat.not_le.mpr hshort)
    · rw [fromBytes, identify_of_short hshort, cutCode, if_pos hshort]
      exact ⟨tooShort input, rfl, rfl⟩
  · rw [fromBytes, identify_of_prefix_encode hpart hlong, cutCode, if_neg (Nat.not_lt.mpr hlong)]
    exact ⟨decode_of_isWhole h, decode_cut h hpart⟩

/-- A text without its last line feed, one of which only the first dashes are left, a document
without its last octet, and one with an octet too many. -/
theorem cut_or_continued_sample :
    let c := sample Algorithm.ed25519
    Decoded c
      ∧ fromBytes true (Pem.extent "CERTIFICATE" c.toDer) = .ok c
      ∧ (fromBytes true Pem.dashes).FailsWith .inputTooShort
      ∧ (fromBytes false c.toDer.dropLast).FailsWith .decodeError
      ∧ (fromDer (c.toDer ++ [0x00])).FailsWith .decodeError := by
  intro c
  have hfeed : Pem.extent "CERTIFICATE" c.toDer ++ [0x0A] = c.encode .pem :=
    (Pem.write_eq _ _).symm
  have hdashes : Pem.dashes <+: c.encode .pem :=
    List.IsPrefix.trans (by decide) c.pemMarker_prefix_toPem
  have hlong : 34 ≤ c.toDer.length := c.document.length_write
  have hlength : c.toDer.dropLast.length = c.toDer.length - 1 := List.length_dropLast
  have hcode : cutCode c.toDer.dropLast = .decodeError := by
    rw [cutCode, if_neg]
    rw [length_pemMarker]
    omega
  refine ⟨decoded_sample, ?_, ?_, ?_, (cut_or_continued decoded_sample).2 _ (by decide)⟩
  · exact ((cut_or_continued decoded_sample).1 .pem true _ ⟨_, hfeed⟩).1 (.inr ⟨rfl, hfeed⟩)
  · refine ((cut_or_continued decoded_sample).1 .pem true _ hdashes).2 fun h => ?_
    exact absurd (length_of_isWhole h) (by decide)
  · rw [← hcode]
    refine ((cut_or_continued decoded_sample).1 .der false _ (List.dropLast_prefix _)).2 ?_
    rintro (hsame | ⟨hformat, -⟩)
    · have hsame' : c.toDer.dropLast.length = c.toDer.length := congrArg List.length hsame
      omega
    · cases hformat

end Certificate
end CertChain
