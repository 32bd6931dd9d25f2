import CertChain.Certificate.Document
import CertChain.Proofs.Der.Primitive

/-!
# A document is written as it was read

`Document.spells_read` says that the octets which `Document.read` takes for a document are
`Document.write` of that document. Together with the form of written documents this is all
that a reader of unknown encoding has to know about them: they begin with the tag of a
sequence (`Document.head?_write`) and are longer than the marker of an armoured text
(`Document.length_write`).

The proof follows the readers from the inside out, one lemma each: algorithm identifiers,
names, validity and key, extensions, the body, the document. Each opens its reader step by
step and puts the written forms of the steps together. The only place where something
besides the form of elements matters is a value that is not held as it was spelled: the
version, and whether an extension is critical.
-/

namespace CertChain

open Der (Spells SpellsAll run_bind_ok run_lift_ok run_pure_ok)

/-! ### Algorithm identifiers -/

namespace Algorithm

/-- An identifier that is read without a look at its parameters is written as it was read. -/
theorem spells_anyReader : Spells anyReader fun a => a.toElement.write := by
  show Spells (Der.sequence _) fun a : Algorithm => Der.writeSequence
    (a.id.toElement.write ++ (a.parameters.map Der.Element.write).getD [])
  refine Der.spells_sequence ?_
  intro input rest a h
  obtain ⟨id, mid, hid, h⟩ := run_bind_ok h
  obtain ⟨parameters, _, hparameters, h⟩ := run_bind_ok h
  obtain ⟨rfl, rfl⟩ := run_pure_ok h
  rw [Oid.spells_reader hid, Der.spells_optionalElement hparameters, List.append_assoc]

/-- Checking the parameters takes nothing, however deep it goes. -/
theorem anyReader_of_readerOfDepth {depth : Nat} {input rest : Bytes} {a : Algorithm}
    (h : (readerOfDepth depth).run input = .ok (a, rest)) :
    anyReader.run input = .ok (a, rest) := by
  cases depth with
  | zero => cases h
  | succ depth =>
    obtain ⟨b, mid, hb, hmore⟩ := run_bind_ok h
    obtain ⟨_, _, hcheck, hpure⟩ := run_bind_ok hmore
    obtain ⟨-, rfl⟩ := run_lift_ok hcheck
    obtain ⟨rfl, rfl⟩ := run_pure_ok hpure
    exact hb

/-- An identifier is written as it was read, and its parameters with it. -/
theorem spells_reader : Spells reader fun a => a.toElement.write := by
  intro input rest a h
  -- the number of octets that are left bounds how deep parameters can go
  obtain ⟨octets, mid, hget, h⟩ := run_bind_ok h
  cases hget
  exact spells_anyReader (anyReader_of_readerOfDepth h)

/-- An identifier takes four octets at least: two for itself, and two for the element in it. -/
theorem length_write (a : Algorithm) : 4 ≤ a.toElement.write.length := by
  refine Der.Element.le_length_write (n := 2) ?_
  have hid : 2 ≤ a.id.toElement.write.length := Der.Element.two_le_length_write _ _
  rw [List.length_append]
  omega

end Algorithm

/-! ### Names -/

/-- An attribute is its kind and its value, one behind the other. The value is kept as the element
that it is, even where the kind says how it has to be spelled. -/
theorem Attribute.spellsAll_ofContents :
    SpellsAll Attribute.ofContents fun a => a.kind.toElement.write ++ a.value.write := by
  refine Der.spellsAll_within ?_
  intro input rest a h
  obtain ⟨kind, mid, hkind, h⟩ := run_bind_ok h
  obtain ⟨value, _, hvalue, h⟩ := run_bind_ok h
  -- an attribute with a value that its kind forbids is not read
  split at h
  · obtain ⟨rfl, rfl⟩ := run_pure_ok h
    rw [Oid.spells_reader hkind, Der.spells_anyElement hvalue, List.append_assoc]
  · cases h

namespace Name

/-- A relative name is the set of its attributes, in the order in which they were read. -/
theorem spellsAll_relativeOfContents :
    SpellsAll relativeOfContents fun attributes =>
      attributes.flatMap fun a => a.toElement.write := by
  intro contents attributes h
  obtain ⟨members, hmembers, h⟩ := bind_ok h
  split at h
  · -- the order of a set is checked and kept
    rw [Der.elements_spells hmembers]
    refine Der.flatMap_write_of_mapM (fun e a ha => ?_) h
    split at ha
    · rename_i htag
      rw [Der.Element.eq_make_of_hasTag htag, Attribute.spellsAll_ofContents ha]
      rfl
    · cases ha
  · cases h

/-- A name is the sequence of its relative names, each a set. -/
theorem spells_reader : Spells reader fun name => name.toElement.write := by
  intro input rest name h
  obtain ⟨contents, mid, hcontents, hmore⟩ := run_bind_ok h
  obtain ⟨relativeNames, _, hlift, hpure⟩ := run_bind_ok hmore
  obtain ⟨hnames, rfl⟩ := run_lift_ok hlift
  obtain ⟨rfl, rfl⟩ := run_pure_ok hpure
  rw [Der.spells_expect Der.sequenceTag hcontents,
    Der.spellsAll_sequenceOf spellsAll_relativeOfContents Der.setTag hnames]
  rfl

end Name

/-! ### Version, validity and key -/

/-- The version that is written has the one spelling of the number two. -/
theorem Version.spells_reader : Spells Version.reader Version.write := by
  intro input rest version h
  obtain ⟨contents, mid, hcontents, hmore⟩ := run_bind_ok h
  rw [Der.spells_optional (Der.contextTag 0) hcontents]
  -- without a version in the input nothing is written either
  cases contents with
  | none =>
    obtain ⟨rfl, rfl⟩ := run_pure_ok hmore
    rfl
  | some contents =>
    obtain ⟨n, _, hlift, hlast⟩ := run_bind_ok hmore
    obtain ⟨hn, rfl⟩ := run_lift_ok hlift
    split at hlast
    · -- the version is held as what it means, so there must be one way only to spell it
      rename_i htwo
      obtain ⟨rfl, rfl⟩ := run_pure_ok hlast
      rw [htwo] at hn
      obtain ⟨octets, hshort, hvalue, rfl⟩ := Der.Integer.within_naturalReader_ok hn
      rw [Der.Integer.contents_eq_of_natural? hshort hvalue (by decide)]
      rfl
    · cases hlast

/-- Times are held as the texts that they are written as, so a validity has one spelling. -/
theorem Validity.spells_reader : Spells Validity.reader Validity.write := by
  show Spells (Der.sequence _) fun v : Validity => Der.writeSequence
    (v.notBefore.toElement.write ++ v.notAfter.toElement.write)
  refine Der.spells_sequence ?_
  intro input rest validity h
  -- a validity keeps no more than the two times, one read behind the other
  obtain ⟨notBefore, mid, hbefore, h⟩ := run_bind_ok h
  obtain ⟨notAfter, _, hafter, h⟩ := run_bind_ok h
  obtain ⟨rfl, rfl⟩ := run_pure_ok h
  rw [Der.Time.spells_reader hbefore, Der.Time.spells_reader hafter, List.append_assoc]

theorem Validity.length_write (v : Validity) : 6 ≤ v.write.length := by
  refine Der.Element.le_length_write (n := 4) ?_
  have hbefore : 2 ≤ v.notBefore.toElement.write.length :=
    Der.Element.two_le_length_write _ _
  have hafter : 2 ≤ v.notAfter.toElement.write.length :=
    Der.Element.two_le_length_write _ _
  rw [List.length_append]
  omega

/-- A key is held as the bits that were read. What they say is for others to find out. -/
theorem SubjectKey.spells_reader : Spells SubjectKey.reader SubjectKey.write := by
  show Spells (Der.sequence _) fun k : SubjectKey => Der.writeSequence
    (k.algorithm.toElement.write ++ k.bits.toElement.write)
  refine Der.spells_sequence ?_
  intro input rest key h
  obtain ⟨algorithm, mid, halgorithm, h⟩ := run_bind_ok h
  obtain ⟨bits, _, hbits, h⟩ := run_bind_ok h
  obtain ⟨rfl, rfl⟩ := run_pure_ok h
  rw [Algorithm.spells_reader halgorithm, Der.BitString.spells_reader hbits, List.append_assoc]

theorem SubjectKey.length_write (k : SubjectKey) : 8 ≤ k.write.length := by
  refine Der.Element.le_length_write (n := 6) ?_
  have halgorithm := k.algorithm.length_write
  have hbits : 2 ≤ k.bits.toElement.write.length := Der.Element.two_le_length_write _ _
  rw [List.length_append]
  omega

/-! ### Extensions -/

namespace Extension

/-- An extension is written as it was read, whether it speaks of being critical or not. -/
theorem spellsAll_ofContents :
    SpellsAll ofContents fun e =>
      e.id.toElement.write ++ writeCritical e.critical
        ++ (Der.Element.make Der.octetStringTag e.value).write := by
  refine Der.spellsAll_within ?_
  intro input rest e h
  obtain ⟨id, afterId, hid, hmore⟩ := run_bind_ok h
  obtain ⟨octets, mid, hoctets, hlast⟩ := run_bind_ok hmore
  rw [Oid.spells_reader hid, Der.spells_optional Der.booleanTag hoctets]
  -- what is said of criticality is either nothing, or that it is there
  cases octets with
  | none =>
    obtain ⟨critical, _, hfalse, htail⟩ := run_bind_ok hlast
    obtain ⟨rfl, rfl⟩ := run_pure_ok hfalse
    obtain ⟨value, _, hvalue, hpure⟩ := run_bind_ok htail
    obtain ⟨rfl, rfl⟩ := run_pure_ok hpure
    rw [Der.spells_expect Der.octetStringTag hvalue]
    simp only [writeCritical, List.append_assoc]
    rfl
  | some octets =>
    obtain ⟨isTrue, _, hlift, hcritical⟩ := run_bind_ok hlast
    obtain ⟨htrue, rfl⟩ := run_lift_ok hlift
    split at hcritical
    · -- the default must not be spelled out, so the octets say that it is critical
      rename_i hyes
      obtain ⟨critical, _, hpresent, htail⟩ := run_bind_ok hcritical
      obtain ⟨rfl, rfl⟩ := run_pure_ok hpresent
      obtain ⟨value, _, hvalue, hpure⟩ := run_bind_ok htail
      obtain ⟨rfl, rfl⟩ := run_pure_ok hpure
      rw [hyes] at htrue
      rw [Der.contents_of_booleanOfContents htrue, Der.spells_expect Der.octetStringTag hvalue]
      simp only [writeCritical, List.append_assoc]
      rfl
    · cases hcritical

/-- The list of extensions is there as a whole or not at all, and an empty list is not the same as
none. -/
theorem spells_listReader : Spells listReader writeList := by
  intro input rest extensions h
  obtain ⟨contents, mid, hcontents, hmore⟩ := run_bind_ok h
  rw [Der.spells_optional (Der.contextTag 3) hcontents]
  cases contents with
  | none =>
    obtain ⟨rfl, rfl⟩ := run_pure_ok hmore
    rfl
  | some contents =>
    obtain ⟨members, _, hinner, hlast⟩ := run_bind_ok hmore
    obtain ⟨hmembers, rfl⟩ := run_lift_ok hinner
    obtain ⟨list, _, hlift, hpure⟩ := run_bind_ok hlast
    obtain ⟨hlist, rfl⟩ := run_lift_ok hlift
    obtain ⟨rfl, rfl⟩ := run_pure_ok hpure
    rw [Der.spellsAll_within (Der.spells_expect Der.sequenceTag) hmembers,
      Der.spellsAll_sequenceOf spellsAll_ofContents Der.sequenceTag hlist]
    rfl

end Extension

/-! ### Body and document -/

namespace Body

/-- An identifier of the issuer or the subject is there with its tag or not at all. -/
theorem spells_idReader (tag : UInt8) : Spells (idReader tag) (writeId tag) := by
  intro input rest bits h
  obtain ⟨contents, mid, hcontents, hmore⟩ := run_bind_ok h
  rw [Der.spells_optional tag hcontents]
  cases contents with
  | none =>
    obtain ⟨rfl, rfl⟩ := run_pure_ok hmore
    rfl
  | some contents =>
    obtain ⟨bits, _, hlift, hpure⟩ := run_bind_ok hmore
    obtain ⟨hbits, rfl⟩ := run_lift_ok hlift
    obtain ⟨rfl, rfl⟩ := run_pure_ok hpure
    rw [Der.BitString.spellsAll_ofContents hbits]
    rfl

/-- The body is its fields in their order, those that may be missing at both ends included. -/
theorem spells_reader : Spells reader write := by
  show Spells (Der.sequence _) fun b : Body => Der.writeSequence
    (b.version.write ++ b.serial.toElement.write ++ b.algorithm.toElement.write
      ++ b.issuer.toElement.write ++ b.validity.write ++ b.subject.toElement.write ++ b.key.write
      ++ writeId (Der.primitiveContextTag 1) b.issuerId
      ++ writeId (Der.primitiveContextTag 2) b.subjectId
      ++ Extension.writeList b.extensions)
  refine Der.spells_sequence ?_
  intro input rest b h
  -- ten fields, one behind the other
  obtain ⟨version, _, hversion, h⟩ := run_bind_ok h
  obtain ⟨serial, _, hserial, h⟩ := run_bind_ok h
  obtain ⟨algorithm, _, halgorithm, h⟩ := run_bind_ok h
  obtain ⟨issuer, _, hissuer, h⟩ := run_bind_ok h
  obtain ⟨validity, _, hvalidity, h⟩ := run_bind_ok h
  obtain ⟨subject, _, hsubject, h⟩ := run_bind_ok h
  obtain ⟨key, _, hkey, h⟩ := run_bind_ok h
  obtain ⟨issuerId, _, hissuerId, h⟩ := run_bind_ok h
  obtain ⟨subjectId, _, hsubjectId, h⟩ := run_bind_ok h
  obtain ⟨extensions, _, hextensions, h⟩ := run_bind_ok h
  obtain ⟨rfl, rfl⟩ := run_pure_ok h
  rw [Version.spells_reader hversion, Der.Integer.spells_reader hserial,
    Algorithm.spells_reader halgorithm, Name.spells_reader hissuer,
    Validity.spells_reader hvalidity, Name.spells_reader hsubject,
    SubjectKey.spells_reader hkey, spells_idReader _ hissuerId, spells_idReader _ hsubjectId,
    Extension.spells_listReader hextensions]
  simp only [List.append_assoc]

/-- A body has at least an empty serial number, an algorithm, two empty names, a validity and a key.
-/
theorem length_write (b : Body) : 26 ≤ b.write.length := by
  -- version, identifiers and extensions may be missing and are not counted
  refine Der.Element.le_length_write (n := 24) ?_
  have hserial : 2 ≤ b.serial.toElement.write.length :=
    Der.Element.two_le_length_write _ _
  have halgorithm := b.algorithm.length_write
  have hissuer : 2 ≤ b.issuer.toElement.write.length :=
    Der.Element.two_le_length_write _ _
  have hvalidity := b.validity.length_write
  have hsubject : 2 ≤ b.subject.toElement.write.length :=
    Der.Element.two_le_length_write _ _
  have hkey := b.key.length_write
  simp only [List.length_append]
  omega

end Body

namespace Document

/-- A document is the body, the algorithm and the signature. -/
theorem spells_reader : Spells reader write := by
  show Spells (Der.sequence _) fun d : Document => Der.writeSequence
    (d.body.write ++ d.algorithm.toElement.write ++ d.signature.toElement.write)
  refine Der.spells_sequence ?_
  intro input rest d h
  obtain ⟨body, _, hbody, h⟩ := run_bind_ok h
  obtain ⟨algorithm, _, halgorithm, h⟩ := run_bind_ok h
  obtain ⟨signature, _, hsignature, h⟩ := run_bind_ok h
  obtain ⟨rfl, rfl⟩ := run_pure_ok h
  rw [Body.spells_reader hbody, Algorithm.spells_reader halgorithm,
    Der.BitString.spells_reader hsignature]
  simp only [List.append_assoc]

/-- **A document is written as it was read.** -/
theorem spells_read {input : Bytes} {d : Document} (h : read input = .ok d) : input = d.write :=
  Der.spellsAll_within spells_reader h

/-- Documents begin as sequences do. -/
theorem head?_write (d : Document) : d.write.head? = some Der.sequenceTag :=
  rfl

theorem length_write (d : Document) : 34 ≤ d.write.length := by
  refine Der.Element.le_length_write (n := 32) ?_
  have hbody := d.body.length_write
  have halgorithm := d.algorithm.length_write
  have hsignature : 2 ≤ d.signature.toElement.write.length :=
    Der.Element.two_le_length_write _ _
  simp only [List.length_append]
  omega

end Document
end CertChain
