import CertChain.Proofs.Confusion

/-!
# Signatures without a hash function

An algorithm identifier is read twice, once for the scheme and once for the hash function, and each
of the two has tables of its own. A scheme may therefore be known whose hash function is not. The
check has a refusal for this, at RSA keys as well as at DSA keys.

At RSA keys it never comes to that. Whatever names a scheme of RSA has an entry in the table of
hash functions, and the entry is no empty one; with salt the hash function stands in the parameters,
and these were read for the scheme already (`Scheme.Names.hash_of_isRsa`). What may happen is that
the parameters name a hash function which nobody knows, and that is another refusal.

At DSA keys it does come to that, and exactly for the algorithms which are known to need no hash
function (`Algorithm.hashless`). None of them has a scheme, so the key takes each of them for its
own (`Pair.hash_at_hand`).

Refusals are told from one another as faults are, by kind and text. Only a mismatch of key and
algorithm is of the same kind as the two in question, and it begins with the name of a key
(`Refuses.eq_of_fault_eq`).
-/

namespace CertChain

/-! ### What the tables agree on -/

/-- The signature algorithms that are known to use no hash function which could be named. -/
def Algorithm.hashless : List Oid :=
  [ed25519, ed448, gost94, gost12Of256, gost12Of512, mlDsa44, mlDsa65, mlDsa87, unsigned]

/-- The fixed schemes of RSA are in the table of hash functions, each with one. -/
theorem lookup_rsaSignatures :
    ∀ id ∈ Algorithm.rsaSignatures, (signatureHashes.lookup id).join.isSome = true := by
  decide

/-- In the table such an algorithm has an empty entry. -/
theorem lookup_hashless :
    ∀ id ∈ Algorithm.hashless, signatureHashes.lookup id = some none := by
  decide

/-- The empty entries of the table are those of such algorithms. -/
theorem mem_hashless_of_mem :
    ∀ entry ∈ signatureHashes, entry.2 = none → entry.1 ∈ Algorithm.hashless := by
  decide

/-- No such algorithm has a scheme. -/
theorem not_hasScheme_of_hashless :
    ∀ id ∈ Algorithm.hashless, ¬ Algorithm.HasScheme id := by
  decide

section Tables

variable {a : Algorithm} {scheme : Scheme}

/-- **No hash function is found** exactly for the algorithms that need none. -/
theorem signatureHash_eq_none_iff : signatureHash a = .ok none ↔ a.id ∈ Algorithm.hashless := by
  unfold signatureHash
  constructor
  · intro h
    split at h
    · -- what the parameters name is a hash function
      obtain ⟨parameters, -, hmore⟩ := bind_ok h
      obtain ⟨found, -, hlast⟩ := bind_ok hmore
      cases hlast
    · split at h
      · rename_i found hlookup
        cases h
        exact mem_hashless_of_mem _ (mem_of_lookup hlookup) rfl
      · cases h
  · intro h
    have hsalted : a.id ≠ Algorithm.rsaPss := fun hid => not_hasScheme_of_hashless a.id h (.inl hid)
    rw [if_neg hsalted, lookup_hashless a.id h]

/-- An algorithm that names a scheme of RSA has a scheme. -/
theorem Scheme.Names.hasScheme_of_isRsa (h : Scheme.Names a scheme) (hrsa : scheme.IsRsa) :
    Algorithm.HasScheme a.id := by
  cases hrsa with
  | fixed =>
    cases h with
    | rsaFixed hid => exact .inr (.inl hid)
  | salted maskHash saltLength =>
    cases h with
    | rsaSalted hid => exact .inl hid

/-- **A signature of RSA has a hash function**, unless its parameters name one that is not known. -/
theorem Scheme.Names.hash_of_isRsa (h : Scheme.Names a scheme) (hrsa : scheme.IsRsa) :
    (∃ hash, signatureHash a = .ok (some hash))
      ∨ a.id = Algorithm.rsaPss ∧ ∃ id, signatureHash a = .error (.unknownHash id) := by
  cases hrsa with
  | fixed =>
    cases h with
    | rsaFixed hid =>
      have hsalted : a.id ≠ Algorithm.rsaPss := fun h => rsaPss_not_mem_rsaSignatures (h ▸ hid)
      obtain ⟨hash, hhash⟩ := Option.isSome_iff_exists.mp (lookup_rsaSignatures a.id hid)
      have hlookup : signatureHashes.lookup a.id = some (some hash) :=
        Option.join_eq_some_iff.mp hhash
      exact .inl ⟨hash, signatureHash_iff.mpr (.byIdentifier hsalted hlookup)⟩
  | salted maskHash saltLength =>
    cases h with
    | @rsaSalted parameters _ hid hparameters =>
      -- the parameters have been read for the scheme, so only the name in them is left
      have hread : signatureHash a = do return some (← namedHash parameters.hash) := by
        rw [signatureHash, if_pos hid, hparameters]
        rfl
      cases hnamed : namedHash parameters.hash with
      | ok hash =>
        refine .inl ⟨hash, ?_⟩
        rw [hread, hnamed]
        rfl
      | error refusal =>
        have hrefusal := namedHash_refuses parameters.hash refusal hnamed
        refine .inr ⟨hid, parameters.hash, ?_⟩
        rw [hread, hnamed, hrefusal]
        rfl

/-- No RSA signature of a named scheme is without a hash function. -/
theorem Scheme.Names.signatureHash_ne_none (h : Scheme.Names a scheme) (hrsa : scheme.IsRsa) :
    signatureHash a ≠ .ok none := by
  intro hnone
  have hhashless := signatureHash_eq_none_iff.mp hnone
  exact not_hasScheme_of_hashless a.id hhashless (h.hasScheme_of_isRsa hrsa)

end Tables

/-! ### Which refusal it is -/

section Refusals

variable {key : PublicKey} {signee : Document} {refusal : Refusal}

/-- What cannot be read is told by faults of other kinds. -/
theorem Refusal.OfReading.kind_ne (h : refusal.OfReading) :
    refusal.fault.head.kind ≠ Fault.Kind.type := by
  have halgorithm : Fault.Kind.unsupportedAlgorithm ≠ Fault.Kind.type := by decide
  cases h with
  | unknownSignature id => exact halgorithm
  | unknownHash id => exact halgorithm
  | badParameters =>
    show Fault.Kind.value ≠ Fault.Kind.type
    decide

/-- The name of a key begins with four characters, and not with these. -/
theorem take_kindName_ne (key : PublicKey) (rest : String) :
    (key.kindName ++ rest).toList.take 4 ∉ ["RSA ".toList, "DSA ".toList] := by
  have hname : 4 ≤ key.kindName.toList.length
      ∧ key.kindName.toList.take 4 ∉ ["RSA ".toList, "DSA ".toList] := by
    cases key <;> (rw [PublicKey.kindName]; decide)
  rw [String.toList_append, List.take_append_of_le_length hname.1]
  exact hname.2

/-- The refusals of signatures that name no hash function. -/
inductive Refusal.IsHashless : Refusal → Prop where
  | rsa : IsHashless .rsaWithoutHash
  | dsa : IsHashless .dsaWithoutHash

/-- A signature without a hash function is refused with a fault of a type. -/
theorem Refusal.IsHashless.kind_eq {other : Refusal} (h : other.IsHashless) :
    other.fault.head.kind = Fault.Kind.type := by
  cases h <;> rfl

/-- No key is called by the name that such a refusal begins with. -/
theorem Refusal.IsHashless.fault_ne {other : Refusal} (h : other.IsHashless) (key : PublicKey)
    (id : Oid) : (Refusal.keyMismatch key.kindName id).fault ≠ other.fault := by
  intro heq
  -- the text of a mismatch begins with the name of the key
  have hbeginning := take_kindName_ne key (" cannot check a signature made with " ++ id.dotted)
  have htext : ∀ text, other.fault.text = .ok text →
      key.kindName ++ (" cannot check a signature made with " ++ id.dotted) = text := by
    intro text htext
    rw [← heq] at htext
    rw [← String.append_assoc]
    exact Except.ok.inj htext
  cases h with
  | rsa =>
    rw [htext _ rfl] at hbeginning
    exact hbeginning (by decide)
  | dsa =>
    rw [htext _ rfl] at hbeginning
    exact hbeginning (by decide)

/-- **A refusal that looks like one of the two is that one.** -/
theorem Refuses.eq_of_fault_eq {other : Refusal} (h : Refuses signee key refusal)
    (hother : other.IsHashless) (hsame : refusal.fault = other.fault) : refusal = other := by
  have hkind : refusal.fault.head.kind = Fault.Kind.type := by
    rw [hsame]
    exact hother.kind_eq
  -- the other refusals are told by the kind of their faults, and the two by their texts
  cases h with
  | unread hreading => exact absurd hkind hreading.kind_ne
  | keyTooSmall => exact absurd hkind (by decide)
  | keyMismatch => exact absurd hsame (hother.fault_ne key signee.algorithm.id)
  | rsaWithoutHash =>
    cases hother with
    | rsa => rfl
    | dsa => exact absurd hsame (by decide)
  | dsaWithoutHash =>
    cases hother with
    | rsa => exact absurd hsame (by decide)
    | dsa => rfl

end Refusals

namespace Pair

variable {pair : Pair} {refusal : Refusal}

/-- **Verification fails because of a refusal**, as far as the fault tells. -/
def FailsFor (pair : Pair) (refusal : Refusal) : Prop :=
  ∃ f, pair.verify = .error f ∧ f.cause = some refusal.fault

/-- Without a key the fault is of another kind. -/
theorem kind_keyFault_ne (e : PublicKey.Error) :
    (Certificate.keyFault e).head.kind ≠ Fault.Kind.type := by
  cases e <;> simp [Certificate.keyFault, Fault.ofText, Fault.head, Fault.Kind.type,
    Fault.Kind.value]

/-- Behind a failure for want of a hash function is the key's refusal for this reason. -/
theorem failsFor_iff (hhashless : refusal.IsHashless) :
    pair.FailsFor refusal
      ↔ ∃ key, pair.HasKey key ∧ checkSignature key pair.signee.document = .error refusal := by
  constructor
  · rintro ⟨f, hf, hcause⟩
    cases hfound : PublicKey.ofSubjectKey pair.signer.document.body.key with
    | error e =>
      rw [verify_of_keyless hfound] at hf
      cases hf
      have hsame : Certificate.keyFault e = refusal.fault := Option.some.inj hcause
      refine absurd ?_ (kind_keyFault_ne e)
      rw [hsame]
      exact hhashless.kind_eq
    | ok key =>
      have hkey : pair.HasKey key := hfound
      rw [hkey.verify_eq, verifyWith] at hf
      split at hf
      · cases hf
      · -- a signature that does not hold is a fault without words
        cases hf
        have hsame : Fault.bare .invalidSignature = refusal.fault := Option.some.inj hcause
        -- it is of its own kind, and not of a type
        have hkind := congrArg (fun fault => fault.head.kind) hsame
        exact absurd (hkind.trans hhashless.kind_eq) (by decide)
      · rename_i found hrefused
        cases hf
        have hsame : found.fault = refusal.fault := Option.some.inj hcause
        have hfound := (refuses_of_checkSignature hrefused).eq_of_fault_eq hhashless hsame
        exact ⟨key, hkey, hfound ▸ hrefused⟩
  · rintro ⟨key, hkey, hrefused⟩
    refine ⟨refused refusal, ?_, rfl⟩
    rw [hkey.verify_eq, verifyWith, hrefused]

/-- A DSA key takes an algorithm without scheme, and then misses the hash function. -/
theorem checkSignature_dsa {domain : DsaDomain} {y : Nat} {signee : Document}
    (hscheme : Scheme.ofAlgorithm signee.algorithm = .ok .unnamed)
    (hhash : signatureHash signee.algorithm = .ok none) :
    checkSignature (.dsa domain y) signee = .error .dsaWithoutHash := by
  unfold checkSignature
  simp only [hscheme, hhash, bind, Except.bind]
  rfl

/-- **Where there is to be a hash function there is one.** A signature with a scheme of RSA has
one, unless its parameters name one that is not known, and so verification never fails because an
RSA key misses it. A DSA key does miss it, and it misses it exactly where an algorithm has no scheme
and is known to have no hash function; the algorithms without hash function are these, and none
other. -/
theorem hash_at_hand (pair : Pair) :
    (∀ scheme, Scheme.ofAlgorithm pair.signee.document.algorithm = .ok scheme → scheme.IsRsa →
      (∃ hash, signatureHash pair.signee.document.algorithm = .ok (some hash))
        ∨ ∃ id, signatureHash pair.signee.document.algorithm = .error (.unknownHash id))
    ∧ ¬ pair.FailsFor .rsaWithoutHash
    ∧ (pair.FailsFor .dsaWithoutHash
      ↔ (∃ domain y, pair.HasKey (.dsa domain y))
        ∧ Scheme.ofAlgorithm pair.signee.document.algorithm = .ok .unnamed
        ∧ signatureHash pair.signee.document.algorithm = .ok none)
    ∧ (Scheme.ofAlgorithm pair.signee.document.algorithm = .ok .unnamed
        ∧ signatureHash pair.signee.document.algorithm = .ok none
      ↔ pair.signatureId ∈ Algorithm.hashless) := by
  refine ⟨?_, ?_, ?_, ?_⟩
  · intro scheme hscheme hrsa
    rcases (Scheme.ofAlgorithm_iff.mp hscheme).hash_of_isRsa hrsa with hhash | ⟨-, hunknown⟩
    · exact .inl hhash
    · exact .inr hunknown
  · intro hfails
    -- the key would have met an RSA scheme without a hash function, and there is none
    obtain ⟨key, -, hrefused⟩ := (failsFor_iff .rsa).mp hfails
    cases refuses_of_checkSignature hrefused with
    | unread hreading => cases hreading
    | rsaWithoutHash hscheme hrsa hhash => exact hscheme.signatureHash_ne_none hrsa hhash
  · rw [failsFor_iff .dsa]
    constructor
    · rintro ⟨key, hkey, hrefused⟩
      cases refuses_of_checkSignature hrefused with
      | unread hreading => cases hreading
      | dsaWithoutHash hscheme hhash =>
        exact ⟨⟨_, _, hkey⟩, Scheme.ofAlgorithm_iff.mpr hscheme, hhash⟩
    · rintro ⟨⟨domain, y, hkey⟩, hscheme, hhash⟩
      exact ⟨_, hkey, checkSignature_dsa hscheme hhash⟩
  · constructor
    · rintro ⟨-, hhash⟩
      exact signatureHash_eq_none_iff.mp hhash
    · intro hid
      -- without a scheme the algorithm is left to the key
      have hscheme := Scheme.Names.unnamed (not_hasScheme_of_hashless _ hid)
      exact ⟨Scheme.ofAlgorithm_iff.mpr hscheme, signatureHash_eq_none_iff.mpr hid⟩

end Pair

/-- The small certificate with a DSA key of small numbers. -/
def Certificate.dsaKeyed : Certificate :=
  let document := sampleDocument Algorithm.ed25519
  let numbers : List UInt8 := [0x02, 0x01, 0x17, 0x02, 0x01, 0x0b, 0x02, 0x01, 0x04]
  let key : SubjectKey :=
    ⟨⟨Algorithm.dsa, some (.make Der.sequenceTag numbers)⟩, ⟨0, [0x02, 0x01, 0x08]⟩⟩
  { sample Algorithm.ed25519 with
    document := { document with body := { document.body with key := key } }
    subject_eq := text?_subject
    issuer_eq := text?_issuer }

/-- A signature of RSA has its hash function for whatever key, and a DSA key misses one for a
signature of Ed25519. -/
theorem Pair.hash_at_hand_samples :
    let rsa : Certificate := .sample Algorithm.rsaWithSha256
    let plain : Certificate := .sample Algorithm.ed25519
    rsa.Decoded ∧ plain.Decoded ∧ Certificate.dsaKeyed.Decoded
      ∧ Scheme.ofAlgorithm rsa.document.algorithm = .ok .rsaFixed
      ∧ (∃ hash, signatureHash rsa.document.algorithm = .ok (some hash))
      ∧ ¬ FailsFor ⟨plain, rsa⟩ .rsaWithoutHash
      ∧ FailsFor ⟨Certificate.dsaKeyed, plain⟩ .dsaWithoutHash := by
  intro rsa plain
  -- the three certificates are read, so they are ones that the program can hold
  have hread : Certificate.readDer rsa.toDer = .ok rsa := by
    decide +kernel
  have hreadKeyed : Certificate.readDer Certificate.dsaKeyed.toDer = .ok Certificate.dsaKeyed := by
    decide +kernel
  have hscheme : Scheme.ofAlgorithm rsa.document.algorithm = .ok .rsaFixed := rfl
  have hkey : HasKey ⟨Certificate.dsaKeyed, plain⟩ (.dsa ⟨23, 11, 4⟩ 8) := by
    show PublicKey.ofSubjectKey Certificate.dsaKeyed.document.body.key = _
    decide +kernel
  obtain ⟨hpresent, hnever, -, -⟩ := hash_at_hand ⟨plain, rsa⟩
  obtain ⟨-, -, hmissed, hhashless⟩ := hash_at_hand ⟨Certificate.dsaKeyed, plain⟩
  refine ⟨.der (Certificate.fromDer_toDer hread), Certificate.decoded_sample,
    .der (Certificate.fromDer_toDer hreadKeyed), hscheme, ?_, hnever, ?_⟩
  · rcases hpresent _ hscheme .fixed with hhash | ⟨id, hunknown⟩
    · exact hhash
    · cases hunknown
  · exact hmissed.mpr ⟨⟨_, _, hkey⟩, hhashless.mpr (by decide)⟩

end CertChain
