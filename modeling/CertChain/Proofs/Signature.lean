import CertChain.Proofs.Certificate
import CertChain.Signature.Check

/-!
# When a key checks a signature

`checkSignature` reads the scheme of a signature, asks whether the key fits it, looks up the
hash function, and only then computes. This file says what that comes to without saying how
it is done.

* `Scheme.Names` is the scheme that an identifier and its parameters name, and
  `HashFunction.Names` is the hash function. Each has one rule for every way of naming.
* `Checks` is the whole of it: which key can say anything about which signature, and what it
  says. It has a rule for every pair of a kind of key and a scheme that fit, and what the
  rule computes is computed over the body that was signed, with the padding and the hash
  function that stand beside the signature.

`checkSignature_iff` is that the computation has an answer exactly when a rule gives one, and
the same one; a key is refused exactly when no rule applies (`checkSignature_refuses_iff`).
`Refuses` has the reasons for which it is refused, and there are no others
(`refuses_of_checkSignature`).
-/

namespace CertChain

/-! ### Hash functions -/

/-- **The hash function of a signature**: with salt it stands in the parameters, and else it
goes with the identifier. -/
inductive HashFunction.Names (a : Algorithm) : HashFunction → Prop where
  | inParameters {parameters : PssParameters} {hash : HashFunction}
      (hid : a.id = Algorithm.rsaPss) (hparameters : saltedParameters a = .ok parameters)
      (hhash : HashFunction.ofId? parameters.hash = some hash) : Names a hash
  | byIdentifier {hash : HashFunction} (hid : a.id ≠ Algorithm.rsaPss)
      (hhash : signatureHashes.lookup a.id = some (some hash)) : Names a hash

section Hashes

variable {a : Algorithm} {hash : HashFunction}

/-- A hash function is found by its identifier, or it is none. -/
theorem namedHash_iff {id : Oid} : namedHash id = .ok hash ↔ HashFunction.ofId? id = some hash := by
  -- the table has the hash function, or it has not
  unfold namedHash
  cases HashFunction.ofId? id with
  | none => simp
  | some found => simp

/-- The hash function that is looked up is the one that is named. -/
theorem signatureHash_iff : signatureHash a = .ok (some hash) ↔ HashFunction.Names a hash := by
  unfold signatureHash
  -- each rule belongs to one side of the first question that is asked
  by_cases hid : a.id = Algorithm.rsaPss
  · rw [if_pos hid]
    constructor
    · intro h
      obtain ⟨parameters, hparameters, hmore⟩ := bind_ok h
      obtain ⟨found, hfound, hlast⟩ := bind_ok hmore
      cases hlast
      exact .inParameters hid hparameters (namedHash_iff.mp hfound)
    · intro h
      cases h with
      | inParameters _ hparameters hhash =>
        rw [hparameters]
        simp only [bind, Except.bind, namedHash_iff.mpr hhash]
        rfl
      | byIdentifier hne => exact absurd hid hne
  · rw [if_neg hid]
    constructor
    · intro h
      split at h
      · rename_i found hlookup
        cases h
        exact .byIdentifier hid hlookup
      · cases h
    · intro h
      cases h with
      | inParameters hpss => exact absurd hpss hid
      | byIdentifier _ hhash => rw [hhash]

end Hashes

/-! ### Schemes -/

/-- The identifiers that name a scheme: those of RSA and of ECDSA. -/
def Algorithm.HasScheme (id : Oid) : Prop :=
  id = rsaPss ∨ id ∈ rsaSignatures ∨ id ∈ ecdsaSignatures

/-- **The scheme of a signature.** Whatever names none of its own has the one without name. -/
inductive Scheme.Names (a : Algorithm) : Scheme → Prop where
  | rsaFixed (hid : a.id ∈ Algorithm.rsaSignatures) : Names a .rsaFixed
  | rsaSalted {parameters : PssParameters} {maskHash : HashFunction}
      (hid : a.id = Algorithm.rsaPss) (hparameters : saltedParameters a = .ok parameters)
      (hmask : parameters.maskGeneration = Algorithm.maskGeneration1)
      (hhash : HashFunction.ofId? parameters.maskHash = some maskHash) :
      Names a (.rsaSalted maskHash parameters.saltLength)
  | ecdsa {hash : HashFunction} (hid : a.id ∈ Algorithm.ecdsaSignatures)
      (hhash : HashFunction.Names a hash) : Names a (.ecdsa hash)
  | unnamed (hid : ¬ Algorithm.HasScheme a.id) : Names a .unnamed

/-- Salted signatures are not in the table of RSA, where the padding is fixed. -/
theorem rsaPss_not_mem_rsaSignatures : Algorithm.rsaPss ∉ Algorithm.rsaSignatures := by
  decide

/-- Nor are they in the table of ECDSA. -/
theorem rsaPss_not_mem_ecdsaSignatures : Algorithm.rsaPss ∉ Algorithm.ecdsaSignatures := by
  decide

/-- The two tables have nothing in common. -/
theorem not_mem_rsaSignatures_of_ecdsa :
    ∀ id ∈ Algorithm.ecdsaSignatures, id ∉ Algorithm.rsaSignatures := by
  decide

/-- The scheme that is read is the one that is named. -/
theorem Scheme.ofAlgorithm_iff {a : Algorithm} {scheme : Scheme} :
    Scheme.ofAlgorithm a = .ok scheme ↔ Scheme.Names a scheme := by
  unfold Scheme.ofAlgorithm
  constructor
  · intro h
    split at h
    · -- salted signatures say in their parameters how they are made
      rename_i hid
      obtain ⟨parameters, hparameters, hmore⟩ := bind_ok h
      simp only at hmore
      split at hmore
      · cases hmore
      · rename_i hmask
        obtain ⟨maskHash, hhash, hlast⟩ := bind_ok hmore
        cases hlast
        exact .rsaSalted hid hparameters (not_not.mp hmask) (namedHash_iff.mp hhash)
    · rename_i hpss
      -- the tables are looked through one after the other
      split at h
      · rename_i hid
        cases h
        exact .rsaFixed (List.contains_iff_mem.mp hid)
      · rename_i hrsa
        split at h
        · rename_i hid
          obtain ⟨found, hfound, hmore⟩ := bind_ok h
          split at hmore
          · cases hmore
            exact .ecdsa (List.contains_iff_mem.mp hid) (signatureHash_iff.mp hfound)
          · cases hmore
        · rename_i hecdsa
          cases h
          refine .unnamed fun hscheme => ?_
          rcases hscheme with heq | hmem | hmem
          · exact hpss heq
          · exact hrsa (List.contains_iff_mem.mpr hmem)
          · exact hecdsa (List.contains_iff_mem.mpr hmem)
  · intro h
    cases h with
    | rsaFixed hid =>
      have hpss : a.id ≠ Algorithm.rsaPss := fun h => rsaPss_not_mem_rsaSignatures (h ▸ hid)
      rw [if_neg hpss, if_pos (List.contains_iff_mem.mpr hid)]
    | rsaSalted hid hparameters hmask hhash =>
      rw [if_pos hid, hparameters]
      simp only [bind, Except.bind, hmask, namedHash_iff.mpr hhash]
      rfl
    | ecdsa hid hhash =>
      -- no identifier is in two of the tables
      have hpss : a.id ≠ Algorithm.rsaPss := fun h => rsaPss_not_mem_ecdsaSignatures (h ▸ hid)
      have hrsa : ¬ Algorithm.rsaSignatures.contains a.id = true := fun h =>
        not_mem_rsaSignatures_of_ecdsa a.id hid (List.contains_iff_mem.mp h)
      rw [if_neg hpss, if_neg hrsa, if_pos (List.contains_iff_mem.mpr hid),
        signatureHash_iff.mpr hhash]
      rfl
    | unnamed hid =>
      have hrsa : ¬ Algorithm.rsaSignatures.contains a.id = true := fun h =>
        hid (.inr (.inl (List.contains_iff_mem.mp h)))
      have hecdsa : ¬ Algorithm.ecdsaSignatures.contains a.id = true := fun h =>
        hid (.inr (.inr (List.contains_iff_mem.mp h)))
      rw [if_neg fun h => hid (.inl h), if_neg hrsa, if_neg hecdsa]

/-! ### The check -/

/-- **What a key says about the signature on a document.** Each rule is one kind of key with
one scheme that fits it. -/
inductive Checks (signee : Document) : PublicKey → Bool → Prop where
  | rsaFixed {n e : Nat} {hash : HashFunction} {answer : Bool}
      (hscheme : Scheme.Names signee.algorithm .rsaFixed)
      (hhash : HashFunction.Names signee.algorithm hash)
      (hverify : Rsa.verifyFixed n e hash signee.body.write signee.signature.octets = answer) :
      Checks signee (.rsa n e) answer
  | rsaSalted {n e saltLength : Nat} {hash maskHash : HashFunction} {answer : Bool}
      (hscheme : Scheme.Names signee.algorithm (.rsaSalted maskHash saltLength))
      (hhash : HashFunction.Names signee.algorithm hash) (hroom : hash.size + 2 ≤ Rsa.size n)
      (hverify : Rsa.verifySalted n e hash maskHash saltLength signee.body.write
        signee.signature.octets = answer) :
      Checks signee (.rsa n e) answer
  | ecdsa {named : NamedCurve} {point : Weierstrass.Point} {hash : HashFunction} {answer : Bool}
      (hscheme : Scheme.Names signee.algorithm (.ecdsa hash))
      (hverify : Ecdsa.verify named.curve point hash signee.body.write signee.signature.octets
        = answer) :
      Checks signee (.ellipticCurve named point) answer
  | ed25519 {octets : Bytes} {answer : Bool}
      (hscheme : Scheme.Names signee.algorithm .unnamed)
      (hverify : Eddsa.verify25519 octets signee.body.write signee.signature.octets = answer) :
      Checks signee (.ed25519 octets) answer
  | ed448 {octets : Bytes} {answer : Bool}
      (hscheme : Scheme.Names signee.algorithm .unnamed)
      (hverify : Eddsa.verify448 octets signee.body.write signee.signature.octets = answer) :
      Checks signee (.ed448 octets) answer
  | dsa {domain : DsaDomain} {y : Nat} {hash : HashFunction} {answer : Bool}
      (hscheme : Scheme.Names signee.algorithm .unnamed)
      (hhash : HashFunction.Names signee.algorithm hash)
      (hverify : Dsa.verify domain y hash signee.body.write signee.signature.octets = answer) :
      Checks signee (.dsa domain y) answer

section Check

variable {key : PublicKey} {signee : Document} {answer : Bool}

/-- A salted signature is computed if the key has room for the hash and two octets more. -/
theorem checkSalted_iff {n e saltLength : Nat} {hash maskHash : HashFunction}
    {message signature : Bytes} :
    checkSalted n e hash maskHash saltLength message signature = .ok answer
      ↔ hash.size + 2 ≤ Rsa.size n
        ∧ Rsa.verifySalted n e hash maskHash saltLength message signature = answer := by
  unfold checkSalted
  split
  · rename_i hsmall
    constructor
    · intro h
      cases h
    · intro h
      exact absurd h.1 (Nat.not_le.mpr hsmall)
  · rename_i hroom
    rw [Except.ok.injEq]
    exact ⟨fun h => ⟨Nat.not_lt.mp hroom, h⟩, fun h => h.2⟩

/-- Every answer is given by a rule. -/
theorem checks_of_checkSignature (h : checkSignature key signee = .ok answer) :
    Checks signee key answer := by
  obtain ⟨scheme, hscheme, hbranch⟩ := bind_ok h
  have hnames := Scheme.ofAlgorithm_iff.mp hscheme
  -- six branches for a key with a scheme that fits, and one for all the others
  split at hbranch
  · obtain ⟨found, hfound, hlast⟩ := bind_ok hbranch
    split at hlast
    · cases hlast
    · cases hlast
      exact .rsaFixed hnames (signatureHash_iff.mp hfound) rfl
  · obtain ⟨found, hfound, hlast⟩ := bind_ok hbranch
    split at hlast
    · cases hlast
    · obtain ⟨hroom, hverify⟩ := checkSalted_iff.mp hlast
      exact .rsaSalted hnames (signatureHash_iff.mp hfound) hroom hverify
  · cases hbranch
    exact .ecdsa hnames rfl
  · cases hbranch
    exact .ed25519 hnames rfl
  · cases hbranch
    exact .ed448 hnames rfl
  · obtain ⟨found, hfound, hlast⟩ := bind_ok hbranch
    split at hlast
    · cases hlast
    · cases hlast
      exact .dsa hnames (signatureHash_iff.mp hfound) rfl
  · cases hbranch

/-- Every rule is followed. -/
theorem Checks.checkSignature_eq (h : Checks signee key answer) :
    checkSignature key signee = .ok answer := by
  unfold checkSignature
  -- each rule leads through its own branch, and no other branch can come before it
  cases h with
  | rsaFixed hscheme hhash hverify =>
    simp only [Scheme.ofAlgorithm_iff.mpr hscheme, signatureHash_iff.mpr hhash, bind, Except.bind]
    rw [hverify]
    rfl
  | rsaSalted hscheme hhash hroom hverify =>
    simp only [Scheme.ofAlgorithm_iff.mpr hscheme, signatureHash_iff.mpr hhash, bind, Except.bind]
    exact checkSalted_iff.mpr ⟨hroom, hverify⟩
  | ecdsa hscheme hverify =>
    simp only [Scheme.ofAlgorithm_iff.mpr hscheme, bind, Except.bind]
    rw [hverify]
    rfl
  | ed25519 hscheme hverify =>
    simp only [Scheme.ofAlgorithm_iff.mpr hscheme, bind, Except.bind]
    rw [hverify]
    rfl
  | ed448 hscheme hverify =>
    simp only [Scheme.ofAlgorithm_iff.mpr hscheme, bind, Except.bind]
    rw [hverify]
    rfl
  | dsa hscheme hhash hverify =>
    simp only [Scheme.ofAlgorithm_iff.mpr hscheme, signatureHash_iff.mpr hhash, bind, Except.bind]
    rw [hverify]
    rfl

/-- **The computation and the rules** have the same answers. -/
theorem checkSignature_iff : checkSignature key signee = .ok answer ↔ Checks signee key answer :=
  ⟨checks_of_checkSignature, Checks.checkSignature_eq⟩

/-- There is at most one answer. -/
theorem Checks.unique {other : Bool} (h : Checks signee key answer)
    (h' : Checks signee key other) : answer = other := by
  -- both are what the computation comes to
  have heq := h.checkSignature_eq
  rw [h'.checkSignature_eq] at heq
  cases heq
  rfl

/-- A key is refused exactly when no rule applies. -/
theorem checkSignature_refuses_iff :
    (∃ refusal, checkSignature key signee = .error refusal)
      ↔ ∀ answer, ¬ Checks signee key answer := by
  constructor
  · rintro ⟨refusal, hrefusal⟩ answer hchecks
    rw [hchecks.checkSignature_eq] at hrefusal
    cases hrefusal
  · intro hnone
    cases hresult : checkSignature key signee with
    | error refusal => exact ⟨refusal, rfl⟩
    | ok answer => exact absurd (checks_of_checkSignature hresult) (hnone answer)

end Check

/-! ### Refusals -/

/-- What may be wrong with an algorithm identifier as soon as it is read. -/
inductive Refusal.OfReading : Refusal → Prop where
  | unknownSignature (id : Oid) : OfReading (.unknownSignature id)
  | unknownHash (id : Oid) : OfReading (.unknownHash id)
  | badParameters : OfReading .badParameters

/-- Parameters of a salted signature can only be bad. -/
theorem saltedParameters_refuses (a : Algorithm) :
    ErrorsIn (saltedParameters a) Refusal.OfReading := by
  rw [saltedParameters]
  split
  · exact errorsIn_error .badParameters
  · split
    · exact errorsIn_ok _
    · exact errorsIn_error .badParameters

/-- A hash function that is looked up by its identifier can only be unknown. -/
theorem namedHash_refuses (id : Oid) :
    ErrorsIn (namedHash id) fun refusal => refusal = .unknownHash id := by
  rw [namedHash]
  split
  · exact errorsIn_ok _
  · exact errorsIn_error rfl

/-- An unknown hash function is found out while the algorithm is read. -/
theorem namedHash_ofReading (id : Oid) : ErrorsIn (namedHash id) Refusal.OfReading := by
  intro refusal h
  rw [namedHash_refuses id refusal h]
  exact .unknownHash id

/-- Whatever is wrong with the hash function of a signature is found out while it is read. -/
theorem signatureHash_refuses (a : Algorithm) :
    ErrorsIn (signatureHash a) Refusal.OfReading := by
  rw [signatureHash]
  split_ifs
  · exact (saltedParameters_refuses a).bind fun parameters =>
      (namedHash_ofReading parameters.hash).bind fun hash => errorsIn_ok _
  · split
    · exact errorsIn_ok _
    · exact errorsIn_error (.unknownSignature a.id)

/-- Whatever is wrong with the scheme of a signature is found out while it is read. -/
theorem Scheme.ofAlgorithm_refuses (a : Algorithm) :
    ErrorsIn (Scheme.ofAlgorithm a) Refusal.OfReading := by
  rw [Scheme.ofAlgorithm]
  split_ifs
  · refine (saltedParameters_refuses a).bind fun parameters => ?_
    split_ifs
    · exact errorsIn_error .badParameters
    · exact (namedHash_ofReading parameters.maskHash).bind fun hash => errorsIn_ok _
  · exact errorsIn_ok _
  · refine (signatureHash_refuses a).bind fun hash => ?_
    -- an identifier of ECDSA that came without hash function would count as bad parameters
    cases hash with
    | none => exact errorsIn_error .badParameters
    | some hash => exact errorsIn_ok _
  · exact errorsIn_ok _

/-- Whoever looks up the hash function of a signature fails at the identifier, or because there is
no hash function, or with the one that there is. -/
theorem signatureHash_bind_error {α : Type} {a : Algorithm}
    {use : Option HashFunction → Except Refusal α} {refusal : Refusal}
    (h : signatureHash a >>= use = .error refusal) :
    refusal.OfReading ∨ (signatureHash a = .ok none ∧ use none = .error refusal)
      ∨ ∃ hash, HashFunction.Names a hash ∧ use (some hash) = .error refusal := by
  -- the identifier may be at fault already, and only then what is made of the hash
  rcases bind_error_iff.mp h with hread | ⟨found, hfound, huse⟩
  · exact .inl (signatureHash_refuses a refusal hread)
  · cases found with
    | none => exact .inr (.inl ⟨hfound, huse⟩)
    | some hash => exact .inr (.inr ⟨hash, signatureHash_iff.mp hfound, huse⟩)

/-- The schemes of RSA. -/
inductive Scheme.IsRsa : Scheme → Prop where
  | fixed : IsRsa .rsaFixed
  | salted (maskHash : HashFunction) (saltLength : Nat) : IsRsa (.rsaSalted maskHash saltLength)

/-- **Why a key says nothing about a signature**: the algorithm cannot be read, or it names no
hash function to a key that needs one, or the key is too small or does not fit. -/
inductive Refuses (signee : Document) : PublicKey → Refusal → Prop where
  | unread {key : PublicKey} {refusal : Refusal} (hreading : refusal.OfReading) :
      Refuses signee key refusal
  | rsaWithoutHash {n e : Nat} {scheme : Scheme} (hscheme : Scheme.Names signee.algorithm scheme)
      (hrsa : scheme.IsRsa) (hhash : signatureHash signee.algorithm = .ok none) :
      Refuses signee (.rsa n e) .rsaWithoutHash
  | dsaWithoutHash {domain : DsaDomain} {y : Nat}
      (hscheme : Scheme.Names signee.algorithm .unnamed)
      (hhash : signatureHash signee.algorithm = .ok none) :
      Refuses signee (.dsa domain y) .dsaWithoutHash
  | keyTooSmall {n e : Nat} : Refuses signee (.rsa n e) .keyTooSmall
  | keyMismatch {key : PublicKey} :
      Refuses signee key (.keyMismatch key.kindName signee.algorithm.id)

/-- **There are no other reasons** for which a key is refused. -/
theorem refuses_of_checkSignature {key : PublicKey} {signee : Document} {refusal : Refusal}
    (h : checkSignature key signee = .error refusal) : Refuses signee key refusal := by
  -- the scheme is read before anybody looks at the key
  rcases bind_error_iff.mp h with hread | ⟨scheme, hscheme, hbranch⟩
  · exact .unread (Scheme.ofAlgorithm_refuses _ _ hread)
  have hnames := Scheme.ofAlgorithm_iff.mp hscheme
  -- three branches look up a hash function, and what they do with it is an answer but for a
  -- salted signature
  split at hbranch
  · rcases signatureHash_bind_error hbranch with hread | ⟨hhash, hnone⟩ | ⟨hash, -, hsome⟩
    · exact .unread hread
    · cases hnone
      exact .rsaWithoutHash hnames .fixed hhash
    · cases hsome
  · rcases signatureHash_bind_error hbranch with hread | ⟨hhash, hnone⟩ | ⟨hash, -, hsome⟩
    · exact .unread hread
    · cases hnone
      exact .rsaWithoutHash hnames (.salted _ _) hhash
    · simp only [checkSalted] at hsome
      split at hsome
      · cases hsome
        exact .keyTooSmall
      · cases hsome
  · cases hbranch
  · cases hbranch
  · cases hbranch
  · rcases signatureHash_bind_error hbranch with hread | ⟨hhash, hnone⟩ | ⟨hash, -, hsome⟩
    · exact .unread hread
    · cases hnone
      exact .dsaWithoutHash hnames hhash
    · cases hsome
  · cases hbranch
    exact .keyMismatch

end CertChain
