import CertChain.Certificate.Loader
import CertChain.Proofs.Certificate.InHand
import CertChain.Proofs.Diagnostic
import CertChain.Proofs.Pipeline
import CertChain.Proofs.Verification

/-!
# One entry for each call

`Loader.load` and `Pair.verifyLogged` make their entry in one place, of an outcome that is there
already. That is the end of the story and not the story. The entry for a failure to read is
attached where octets are read, the one for a success where they are loaded, and those for a pair
one behind the other; each is attached by a function that watches one track of the outcome. What
an entry says is looked up for it, names included, whether or not the entry will be shown, and a
name that does not decode would be a fault in the middle of a call that has its outcome already.

Here the two calls are told that way, as computations that make entries and may end in a fault
(`Loader.chain`, `Pair.chain`). Reading takes octets apart under a handler that takes every fault
but departures, and the check of a pair is under one that takes four kinds only. No call ends in a
fault, its outcome is the one without a log, and it makes exactly one entry, which belongs to this
outcome (`Call.chain_on`). From single calls this goes to any number of calls in a row, with one
entry for each of them in their order (`Call.one_entry_for_each`).
-/

namespace CertChain

/-! ### What entries say -/

/-- The particulars of an entry. The reason for a failure is its detail, so an entry about a
failure without one has none. -/
def Event.particulars : Event → Except Fault (List (String × Datum))
  | .starting command strict => return [("command", .text command), ("strict_der", .bool strict)]
  | .loaded subject issuer fingerprint =>
    return [("subject", .text subject), ("issuer", .text issuer), ("sha256", .text fingerprint)]
  | .decodeFailed failure size => do
    let reason ← failure.detail
    return [("code", .text failure.code.name), ("reason", .text reason), ("size", .int size)]
  | .verified signer signee => return [("signer", .text signer), ("signee", .text signee)]
  | .verifyFailed failure signer signee => do
    let reason ← failure.detail
    return [("code", .text failure.code.name), ("reason", .text reason), ("signer", .text signer),
      ("signee", .text signee)]

/-- An entry about octets says the code, the detail and how many octets there are. -/
theorem Event.particulars_decodeFailed {failure : Failure} {reason : String}
    (h : failure.detail = .ok reason) (size : Nat) :
    (Event.decodeFailed failure size).particulars = .ok
      [("code", .text failure.code.name), ("reason", .text reason), ("size", .int size)] := by
  rw [particulars, h]
  rfl

/-- An entry about a pair says the code, the detail and both names. -/
theorem Event.particulars_verifyFailed {failure : Failure} {reason : String}
    (h : failure.detail = .ok reason) (signer signee : String) :
    (Event.verifyFailed failure signer signee).particulars = .ok
      [("code", .text failure.code.name), ("reason", .text reason), ("signer", .text signer),
        ("signee", .text signee)] := by
  rw [particulars, h]
  rfl

/-- **What an entry says**: its name, its level and its particulars. -/
structure Event.Says (entry : Event) (name : String) (level : Level)
    (particulars : List (String × Datum)) : Prop where
  name_eq : entry.name = name
  level_eq : entry.level = level
  particulars_eq : entry.particulars = .ok particulars

/-! ### Computations that make entries -/

/-- **Computations that make entries** and may end in a fault. What has been entered by then
stays. -/
abbrev Entering := Doing (List Event)

namespace Entering

variable {α β : Type}

/-- Makes an entry. -/
def enter (entry : Event) : Entering Unit :=
  ExceptT.lift (MonadLog.record entry : Logged Unit)

/-- A computation that makes no entry. -/
def raising (x : Except Fault α) : Entering α :=
  ExceptT.mk (pure x)

variable (log : List Event)

/-- An entry goes behind those that are there. -/
theorem on_enter (entry : Event) : (enter entry).on log = (.ok (), log ++ [entry]) :=
  rfl

/-- What makes no entry leaves the log as it is. -/
theorem on_raising (x : Except Fault α) : (raising x).on log = (x, log) :=
  rfl

/-- Entries that depend on the track. -/
def byTrack (onSuccess : α → List Event) (onFailure : Failure → List Event) :
    Outcome α → List Event
  | .ok a => onSuccess a
  | .error failure => onFailure failure

/-- A failure is handed on, and a success goes on. -/
theorem on_flatMap (outcome : Outcome α) (f : α → Entering (Outcome β)) :
    (outcome.flatMap f).on log = match outcome with
      | .ok a => (f a).on log
      | .error failure => (.ok (.error failure), log) := by
  cases outcome with
  | ok a => rfl
  | error failure => rfl

/-- **A success is watched**, and entered. -/
theorem on_peek {action : α → Entering Unit} {entry : α → Event}
    (h : ∀ a log, (action a).on log = (.ok (), log ++ [entry a])) (outcome : Outcome α) :
    (outcome.peek action).on log
      = (.ok outcome, log ++ byTrack (fun a => [entry a]) (fun _ => []) outcome) := by
  unfold Outcome.peek
  rw [Doing.on_bind]
  cases outcome with
  | ok a =>
    -- on this track it is the action that is turned to
    have hturn : Outcome.either (.ok a) action (fun _ => pure ()) = action a := rfl
    rw [hturn, h]
    rfl
  | error failure =>
    rw [byTrack, List.append_nil]
    rfl

/-- **A failure is watched**, and entered, if its entry can be made. -/
theorem on_peekFailure {action : Failure → Entering Unit} {entry : Failure → Event}
    {outcome : Outcome α}
    (h : ErrorsIn outcome fun failure =>
      ∀ log, (action failure).on log = (.ok (), log ++ [entry failure])) :
    (outcome.peekFailure action).on log
      = (.ok outcome, log ++ byTrack (fun _ => []) (fun failure => [entry failure]) outcome) := by
  unfold Outcome.peekFailure
  rw [Doing.on_bind]
  cases outcome with
  | ok a =>
    rw [byTrack, List.append_nil]
    rfl
  | error failure =>
    -- on this track it is the action that is turned to
    have hturn : Outcome.either (.error failure : Outcome α) (fun _ => pure ()) action
      = action failure := rfl
    rw [hturn, h failure rfl]
    rfl

end Entering

/-! ### Loading -/

open Entering

namespace Certificate

/-- The subject of a certificate, decoded again. -/
def askSubject (c : Certificate) : Entering String :=
  raising ((Document.textOf c.document.body.subject .badSubject).mapError Error.fault)

/-- The issuer of a certificate, decoded again. -/
def askIssuer (c : Certificate) : Entering String :=
  raising ((Document.textOf c.document.body.issuer .badIssuer).mapError Error.fault)

variable (c : Certificate) (log : List Event)

/-- Asking for the subject is answered, and nothing is entered. -/
theorem on_askSubject : c.askSubject.on log = (.ok c.subject, log) := by
  rw [askSubject, on_raising, Document.textOf, c.subject_eq]
  rfl

/-- Asking for the issuer is answered, and nothing is entered. -/
theorem on_askIssuer : c.askIssuer.on log = (.ok c.issuer, log) := by
  rw [askIssuer, on_raising, Document.textOf, c.issuer_eq]
  rfl

/-- Enters why octets, so many of them, are no certificate. -/
def enterDecodeFailed (size : Nat) (failure : Failure) : Entering Unit := do
  let _ ← raising failure.detail
  enter (.decodeFailed failure size)

/-- A failure that is told in one line has a detail, so it is entered. -/
theorem on_enterDecodeFailed (size : Nat) {failure : Failure} (h : failure.InOneLine)
    (log : List Event) :
    (enterDecodeFailed size failure).on log = (.ok (), log ++ [.decodeFailed failure size]) := by
  obtain ⟨detail, hdetail, -⟩ := h
  rw [enterDecodeFailed, hdetail]
  rfl

/-- **Reading with an entry**: the encoding is told, the octets are taken apart under a handler,
and a failure is entered. -/
def chain (strict : Bool) (raw : Bytes) : Entering (Outcome Certificate) := do
  let outcome ← Outcome.flatMap (identify strict raw) fun format =>
    Outcome.ofComputation (raising (parsed format raw)) .decodeError
      ("Failed to decode " ++ format.title ++ " certificate")
  outcome.peekFailure (enterDecodeFailed raw.length)

/-- Octets are read without a fault, and with an entry if they are no certificate. -/
theorem chain_on (strict : Bool) (raw : Bytes) :
    (chain strict raw).on log
      = (.ok (fromBytes strict raw), log ++ byTrack (fun _ => [])
          (fun failure => [.decodeFailed failure raw.length]) (fromBytes strict raw)) := by
  -- reading makes no entry, and the handler takes the only fault that it may end in
  have hread : (Outcome.flatMap (identify strict raw) fun format =>
      Outcome.ofComputation (raising (parsed format raw)) .decodeError
        ("Failed to decode " ++ format.title ++ " certificate") : Entering _).on log
      = (.ok (fromBytes strict raw), log) := by
    rw [on_flatMap, fromBytes]
    cases identify strict raw with
    | error failure => rfl
    | ok format =>
      simp only [Doing.on_ofComputation, on_raising, ofComputation_parsed]
      rfl
  rw [chain, Doing.on_bind, hread]
  exact on_peekFailure log fun failure hfailure =>
    on_enterDecodeFailed raw.length (fromBytes_oneLine strict raw failure hfailure)

end Certificate

namespace Loader

/-- Enters a certificate, whose names are decoded for it. -/
def enterLoaded (c : Certificate) : Entering Unit := do
  let subject ← c.askSubject
  let issuer ← c.askIssuer
  enter (.loaded subject issuer c.document.fingerprint)

/-- A certificate is entered, since both of its names decode again. -/
theorem on_enterLoaded (c : Certificate) (log : List Event) :
    (enterLoaded c).on log = (.ok (), log ++ [.loaded c.subject c.issuer c.fingerprint]) := by
  -- the names are decoded once more, and they do decode
  rw [enterLoaded, Doing.on_bind, c.on_askSubject]
  simp only [Doing.on_bind, c.on_askIssuer, on_enter]
  rfl

/-- **Loading with an entry**: what has been read is entered. -/
def chain (loader : Loader) (raw : Bytes) : Entering (Outcome Certificate) := do
  let outcome ← Certificate.chain loader.strict raw
  outcome.peek enterLoaded

/-- **Octets are loaded** without a fault, and with one entry. -/
theorem chain_on (loader : Loader) (raw : Bytes) (log : List Event) :
    (loader.chain raw).on log
      = (.ok (Certificate.fromBytes loader.strict raw),
          log ++ [entry raw.length (Certificate.fromBytes loader.strict raw)]) := by
  rw [chain, Doing.on_bind, Certificate.chain_on]
  simp only [on_peek _ on_enterLoaded]
  cases Certificate.fromBytes loader.strict raw with
  | ok c =>
    rw [byTrack, List.append_nil]
    rfl
  | error failure =>
    rw [byTrack, byTrack, List.append_nil]
    rfl

end Loader

/-! ### Checking -/

namespace Certificate

/-- The key of a certificate; it is a fault if it does not decode. -/
def keyOf (c : Certificate) : Except Fault PublicKey :=
  (PublicKey.ofSubjectKey c.document.body.key).mapError keyFault

/-- What is wrong with a key is a failure, and no fault gets through. -/
theorem ofComputation_keyOf (c : Certificate) :
    Outcome.ofComputation c.keyOf .keyExtractionError
        "Failed to extract public key from certificate"
      = (.ok c.publicKey : Except Fault (Outcome PublicKey)) := by
  unfold keyOf publicKey
  cases PublicKey.ofSubjectKey c.document.body.key with
  | ok key => rfl
  | error e => cases e <;> rfl

end Certificate

namespace Pair

variable (pair : Pair) (log : List Event)

/-- The check of a signature: it is a fault if the signature does not hold, and another one if it
cannot be checked. -/
def checked (key : PublicKey) : Except Fault Unit :=
  match checkSignature key pair.signee.document with
  | .ok true => .ok ()
  | .ok false => .error (.bare .invalidSignature)
  | .error refusal => .error refusal.fault

/-- **The check under its handler**, which takes four kinds of faults. -/
def checkChain (key : PublicKey) : Entering (Outcome Pair) :=
  tryCatch (do
    raising (pair.checked key)
    return .ok pair) fun fault =>
      if fault.head.kind = .invalidSignature then
        return .error (.because .verificationFailed
          "Signer certificate does not sign signee certificate" fault)
      else if fault.head.kind ∈ [Fault.Kind.type, .value, .unsupportedAlgorithm] then
        return .error (.because .verificationFailed
          "Signee signature cannot be checked with the signer's key" fault)
      else throw fault

/-- No fault gets past the handler. -/
theorem checkChain_on (key : PublicKey) :
    (pair.checkChain key).on log = (.ok (pair.verifyWith key), log) := by
  unfold checkChain checked verifyWith
  rw [Doing.on_tryCatch, Doing.on_bind, on_raising]
  cases checkSignature key pair.signee.document with
  | ok holds =>
    cases holds with
    | true => rfl
    | false => rfl
  | error refusal =>
    -- a refusal is a fault of one of the other three kinds, so it is not thrown again
    have hkind := kind_fault refusal
    have hother : refusal.fault.head.kind ≠ .invalidSignature := by
      intro h
      rw [h] at hkind
      exact absurd hkind (by decide)
    simp only [if_neg hother, if_pos hkind]
    rfl

/-- Enters a pair that holds. -/
def enterVerified (verified : Pair) : Entering Unit := do
  let signer ← verified.signer.askSubject
  let signee ← verified.signee.askSubject
  enter (.verified signer signee)

/-- A pair that holds is entered, since both names decode again. -/
theorem on_enterVerified (verified : Pair) (log : List Event) :
    (enterVerified verified).on log
      = (.ok (), log ++ [.verified verified.signer.subject verified.signee.subject]) := by
  rw [enterVerified, Doing.on_bind, verified.signer.on_askSubject]
  simp only [Doing.on_bind, verified.signee.on_askSubject, on_enter]

/-- Enters why the pair does not hold. -/
def enterFailed (failure : Failure) : Entering Unit := do
  let _ ← raising failure.detail
  let signer ← pair.signer.askSubject
  let signee ← pair.signee.askSubject
  enter (.verifyFailed failure signer signee)

/-- A failure of a pair is entered, since it has a detail and both names decode again. -/
theorem on_enterFailed {failure : Failure} (h : failure.InOneLine) (log : List Event) :
    (pair.enterFailed failure).on log
      = (.ok (), log ++ [.verifyFailed failure pair.signer.subject pair.signee.subject]) := by
  obtain ⟨detail, hdetail, -⟩ := h
  rw [enterFailed, hdetail, Doing.on_bind, on_raising]
  simp only [Doing.on_bind, pair.signer.on_askSubject, pair.signee.on_askSubject, on_enter]

/-- **Checking with an entry**: one function watches for a success, and behind it another one for
a failure. -/
def chain : Entering (Outcome Pair) := do
  let key ← Outcome.ofComputation (raising pair.signer.keyOf) .keyExtractionError
    "Failed to extract public key from certificate"
  let outcome ← key.flatMap pair.checkChain
  let outcome ← outcome.peek enterVerified
  outcome.peekFailure pair.enterFailed

/-- **A pair is checked** without a fault, and with one entry. -/
theorem chain_on : pair.chain.on log = (.ok pair.verify, log ++ [pair.entry pair.verify]) := by
  -- a missing key is a failure already, and with a key the check is under its handler
  have hverify : (pair.signer.publicKey.flatMap pair.checkChain).on log
      = (.ok pair.verify, log) := by
    rw [on_flatMap, verify]
    cases pair.signer.publicKey with
    | error failure => rfl
    | ok key => exact pair.checkChain_on log key
  rw [chain, Doing.on_bind, Doing.on_ofComputation, on_raising, Certificate.ofComputation_keyOf]
  -- one of the two functions that watch does nothing, whichever track it is
  have hwatched : ∀ log, (pair.verify.peekFailure pair.enterFailed).on log
      = (.ok pair.verify, log ++ byTrack (fun _ => [])
          (fun failure => [.verifyFailed failure pair.signer.subject pair.signee.subject])
          pair.verify) := fun log => on_peekFailure log fun failure hfailure =>
    pair.on_enterFailed (pair.verify_oneLine failure hfailure)
  simp only [Doing.on_bind, hverify, on_peek _ on_enterVerified, hwatched]
  cases pair.verify with
  | ok verified =>
    rw [byTrack, byTrack, List.append_nil]
    rfl
  | error failure =>
    rw [byTrack, byTrack, List.append_nil]
    rfl

end Pair

/-! ### Calls -/

/-- **A call** that makes an entry. -/
inductive Call where
  | load (loader : Loader) (raw : Bytes)
  | verify (pair : Pair)

namespace Call

/-- What a call gives back. -/
abbrev Answer := Outcome Certificate ⊕ Outcome Pair

/-- What it gives back where there is no log. -/
def answer : Call → Answer
  | .load loader raw => .inl (Certificate.fromBytes loader.strict raw)
  | .verify pair => .inr pair.verify

/-- A call is a success. -/
def Succeeds : Call → Prop
  | .load loader raw => ∃ c, Certificate.fromBytes loader.strict raw = .ok c
  | .verify pair => ∃ verified, pair.verify = .ok verified

/-- The call, told step by step. -/
def chain : Call → Entering Answer
  | .load loader raw => .inl <$> loader.chain raw
  | .verify pair => .inr <$> pair.chain

/-- The call. -/
def perform {m : Type → Type} [Monad m] [MonadLog m] : Call → m Answer
  | .load loader raw => .inl <$> loader.load raw
  | .verify pair => .inr <$> pair.verifyLogged

/-- The entry that a call makes. -/
def entry : Call → Event
  | .load loader raw => Loader.entry raw.length (Certificate.fromBytes loader.strict raw)
  | .verify pair => pair.entry pair.verify

/-- **The entry that belongs to a call**, by what comes of the call. -/
inductive Enters : Call → Event → Prop
  | loaded {loader : Loader} {raw : Bytes} {c : Certificate} {entry : Event}
      (h : Certificate.fromBytes loader.strict raw = .ok c)
      (hentry : entry.Says "certificate.loaded" .debug
        [("subject", .text c.subject), ("issuer", .text c.issuer),
          ("sha256", .text c.fingerprint)]) :
      Enters (.load loader raw) entry
  | decodeFailed {loader : Loader} {raw : Bytes} {failure : Failure} {reason : String}
      {entry : Event}
      (h : Certificate.fromBytes loader.strict raw = .error failure)
      (hreason : failure.detail = .ok reason)
      (hentry : entry.Says "certificate.decode_failed" .warning
        [("code", .text failure.code.name), ("reason", .text reason),
          ("size", .int raw.length)]) :
      Enters (.load loader raw) entry
  | verified {pair : Pair} {entry : Event} (h : pair.verify = .ok pair)
      (hentry : entry.Says "verify.passed" .info
        [("signer", .text pair.signer.subject), ("signee", .text pair.signee.subject)]) :
      Enters (.verify pair) entry
  | verifyFailed {pair : Pair} {failure : Failure} {reason : String}
      {entry : Event}
      (h : pair.verify = .error failure) (hreason : failure.detail = .ok reason)
      (hentry : entry.Says "verify.failed" .warning
        [("code", .text failure.code.name), ("reason", .text reason),
          ("signer", .text pair.signer.subject), ("signee", .text pair.signee.subject)]) :
      Enters (.verify pair) entry

variable (call : Call) (log : List Event)

/-- The entry of a call belongs to it. -/
theorem enters_entry : call.Enters call.entry := by
  cases call with
  | load loader raw =>
    rw [entry]
    -- the entry is looked up by the outcome, so it is the outcome that has to be split
    cases h : Certificate.fromBytes loader.strict raw with
    | ok c => exact .loaded h ⟨rfl, rfl, rfl⟩
    | error failure =>
      obtain ⟨reason, hreason, -⟩ := Certificate.fromBytes_oneLine _ _ failure h
      exact .decodeFailed h hreason ⟨rfl, rfl, Event.particulars_decodeFailed hreason _⟩
  | verify pair =>
    rw [entry]
    cases h : pair.verify with
    | ok verified =>
      -- the pair that holds is the one that was checked
      obtain ⟨rfl, -⟩ := Pair.verify_ok_iff.mp h
      exact .verified h ⟨rfl, rfl, rfl⟩
    | error failure =>
      obtain ⟨reason, hreason, -⟩ := pair.verify_oneLine failure h
      exact .verifyFailed h hreason ⟨rfl, rfl, Event.particulars_verifyFailed hreason _ _⟩

/-- The name of an entry says which of the two tracks the call is on. -/
theorem name_entry_iff :
    call.entry.name ∈ ["certificate.loaded", "verify.passed"] ↔ call.Succeeds := by
  cases call with
  | load loader raw =>
    rw [entry, Succeeds]
    cases Certificate.fromBytes loader.strict raw <;> simp [Loader.entry, Event.name]
  | verify pair =>
    rw [entry, Succeeds]
    cases pair.verify <;> simp [Pair.entry, Event.name]

/-- **A single call**: no fault, the outcome without a log, and one entry. -/
theorem chain_on : call.chain.on log = (.ok call.answer, log ++ [call.entry]) := by
  cases call with
  | load loader raw =>
    rw [chain, Doing.on_map, Loader.chain_on]
    rfl
  | verify pair =>
    rw [chain, Doing.on_map, Pair.chain_on]
    rfl

/-- A single call, with the entry made in one place. -/
theorem run_perform :
    (call.perform : Logged Answer).run log = (call.answer, log ++ [call.entry]) := by
  cases call with
  | load loader raw => rfl
  | verify pair => rfl

/-! ### Calls in a row -/

/-- **Calls in a row** make their entries in a row. -/
theorem mapM_chain_on (calls : List Call) (log : List Event) :
    (calls.mapM chain).on log = (.ok (calls.map answer), log ++ calls.map entry) := by
  -- the log of one call is what the next one starts with
  induction calls generalizing log with
  | nil =>
    rw [List.mapM_nil, Doing.on_pure, List.map_nil, List.map_nil, List.append_nil]
  | cons call rest ih =>
    rw [List.mapM_cons, Doing.on_bind, chain_on]
    simp only [Doing.on_bind, ih, Doing.on_pure, List.map_cons, List.append_assoc,
      List.singleton_append]

/-- Calls in a row, with their entries made in one place each. -/
theorem run_mapM_perform (calls : List Call) (log : List Event) :
    (calls.mapM perform : Logged (List Answer)).run log
      = (calls.map answer, log ++ calls.map entry) := by
  -- the same step, once more for entries that are made in one place
  induction calls generalizing log with
  | nil =>
    rw [List.mapM_nil, List.map_nil, List.map_nil, List.append_nil]
    rfl
  | cons call rest ih =>
    rw [List.mapM_cons, StateT.run_bind, run_perform]
    show StateT.run (rest.mapM perform >>= _) (log ++ [call.entry]) = _
    rw [StateT.run_bind, ih, List.append_assoc]
    rfl

/-- **One entry for each call.** A call never ends in a fault. It gives back what it would give
back without a log, and it makes one entry, which says that it was a success just when it was one,
and what came of it. Of any number of calls there are the entries one after the other, one for
each call in the order of the calls. -/
theorem one_entry_for_each :
    (∀ (call : Call) (log : List Event), ∃ entry, call.Enters entry
      ∧ (entry.name ∈ ["certificate.loaded", "verify.passed"] ↔ call.Succeeds)
      ∧ call.chain.on log = (.ok call.answer, log ++ [entry])
      ∧ (call.perform : Logged Answer).run log = (call.answer, log ++ [entry]))
    ∧ ∀ (calls : List Call) (log : List Event), ∃ entries, List.Forall₂ Enters calls entries
      ∧ (calls.mapM chain).on log = (.ok (calls.map answer), log ++ entries)
      ∧ (calls.mapM perform : Logged (List Answer)).run log
        = (calls.map answer, log ++ entries) := by
  constructor
  · intro call log
    -- one entry for all four parts
    exact ⟨call.entry, call.enters_entry, call.name_entry_iff, call.chain_on log,
      call.run_perform log⟩
  · intro calls log
    refine ⟨calls.map entry, ?_, mapM_chain_on calls log, run_mapM_perform calls log⟩
    rw [List.forall₂_map_right_iff, List.forall₂_same]
    exact fun call _ => call.enters_entry

end Call
end CertChain
