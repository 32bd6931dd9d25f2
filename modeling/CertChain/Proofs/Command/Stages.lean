import CertChain.Proofs.Command
import CertChain.Proofs.Outcome
import CertChain.Proofs.Verification

/-!
# The stages of a command

A command reads files, tells their format, decodes them and compares what they hold, one thing
after the other, and it stops at the first that goes wrong. `Command.Refused` lists where that
can be. Each of its cases names one stage that has gone wrong and says that all before it have
gone well, so that of two bad files it is the first that is complained about.
`Command.Delivers` is that all stages have gone well, and says what there is to tell then.

Between them they say all there is to an answer (`answer_error_iff`, `answer_ok_iff`).
-/

namespace CertChain
namespace Command

/-! ### One file -/

section Files

variable (strict : Bool) (tree : FileTree) (path : Path)

/-- **A file whose format is told.** -/
def Detected (format : Format) : Prop :=
  ∃ content, tree.read path = .ok content ∧ CertChain.identify strict content = .ok format

/-- **A file whose format is not told**, because it cannot be read or what it holds has none. -/
inductive NotDetected : Failure → Prop
  | unread {refusal : FileRefusal} (hread : tree.read path = .error refusal) :
    NotDetected (unreadable path (refusal.fault path))
  | unidentified {content : Bytes} {f : Failure} (hread : tree.read path = .ok content)
    (hformat : CertChain.identify strict content = .error f) : NotDetected f

/-- **A file whose certificate is loaded.** -/
def Loaded (c : Certificate) : Prop :=
  ∃ content format, tree.read path = .ok content
    ∧ CertChain.identify strict content = .ok format ∧ Certificate.decode format content = .ok c

/-- **A file whose certificate is not loaded**, because its format is not told or because it is
none in that format. -/
inductive NotLoaded : Failure → Prop
  | undetected {f : Failure} (h : NotDetected strict tree path f) : NotLoaded f
  | undecoded {content : Bytes} {format : Format} {f : Failure}
    (hread : tree.read path = .ok content)
    (hformat : CertChain.identify strict content = .ok format)
    (hdecode : Certificate.decode format content = .error f) : NotLoaded f

variable {strict tree path} {content : Bytes} {f : Failure}

/-- The content of a file is what is read of it. -/
theorem contentOf_ok_iff : contentOf tree path = .ok content ↔ tree.read path = .ok content := by
  rw [contentOf]
  cases tree.read path with
  | ok held =>
    show (Except.ok held : Outcome Bytes) = .ok content ↔ _
    rw [Except.ok.injEq, Except.ok.injEq]
  | error refusal =>
    constructor
    · intro h
      cases h
    · intro h
      cases h

/-- There is no content exactly if the file is refused. -/
theorem contentOf_error_iff : contentOf tree path = .error f
    ↔ ∃ refusal, tree.read path = .error refusal ∧ unreadable path (refusal.fault path) = f := by
  rw [contentOf]
  cases tree.read path with
  | ok held =>
    constructor
    · intro h
      cases h
    · rintro ⟨refusal, h, -⟩
      cases h
  | error refusal =>
    constructor
    · intro h
      exact ⟨refusal, rfl, Except.error.inj h⟩
    · rintro ⟨refusal', h, rfl⟩
      cases h
      rfl

/-- A format is told exactly if it is detected. -/
theorem formatOf_ok_iff {format : Format} :
    formatOf strict tree path = .ok format ↔ Detected strict tree path format := by
  rw [formatOf, bind_ok_iff, Detected]
  simp only [contentOf_ok_iff]

/-- No format is told exactly if none is detected, and for the same reason. -/
theorem formatOf_error_iff :
    formatOf strict tree path = .error f ↔ NotDetected strict tree path f := by
  rw [formatOf, bind_error_iff, contentOf_error_iff]
  constructor
  · rintro (⟨refusal, hread, rfl⟩ | ⟨content, hread, hformat⟩)
    · exact .unread hread
    · exact .unidentified (contentOf_ok_iff.mp hread) hformat
  · rintro (hread | ⟨hread, hformat⟩)
    · exact .inl ⟨_, hread, rfl⟩
    · exact .inr ⟨_, contentOf_ok_iff.mpr hread, hformat⟩

/-- Loading a file begins with telling its format. -/
theorem certificateOf_eq : certificateOf strict tree path = (do
    let content ← contentOf tree path
    Certificate.decode (← CertChain.identify strict content) content) := rfl

/-- There is a certificate exactly if one is loaded. -/
theorem certificateOf_ok_iff {c : Certificate} :
    certificateOf strict tree path = .ok c ↔ Loaded strict tree path c := by
  rw [certificateOf_eq, bind_ok_iff, Loaded]
  simp only [contentOf_ok_iff, bind_ok_iff, exists_and_left]

/-- There is no certificate exactly if none is loaded, and for the same reason. -/
theorem certificateOf_error_iff :
    certificateOf strict tree path = .error f ↔ NotLoaded strict tree path f := by
  -- the stages stand in a row now, and each alternative is one of them
  rw [certificateOf_eq, bind_error_iff, contentOf_error_iff]
  simp only [contentOf_ok_iff, bind_error_iff]
  constructor
  · rintro (⟨refusal, hread, rfl⟩ | ⟨content, hread, hformat | ⟨format, hformat, hdecode⟩⟩)
    · exact .undetected (.unread hread)
    · exact .undetected (.unidentified hread hformat)
    · exact .undecoded hread hformat hdecode
  · rintro ((hread | ⟨hread, hformat⟩) | ⟨hread, hformat, hdecode⟩)
    · exact .inl ⟨_, hread, rfl⟩
    · exact .inr ⟨_, hread, .inl hformat⟩
    · exact .inr ⟨_, hread, .inr ⟨_, hformat, hdecode⟩⟩

end Files

/-! ### Commands -/

variable (settings : Settings) (tree : FileTree)

/-- **Where a command can fail**, and with what: at a file, or at a pair. -/
inductive Refused : Command → Failure → Prop
  | identify {path : Path} {f : Failure} (h : NotDetected settings.strictDer tree path f) :
    Refused (.identify path) f
  | info {path : Path} {f : Failure} (h : NotLoaded settings.strictDer tree path f) :
    Refused (.info path) f
  | convert {path : Path} {format : Option Format} {output : Option Path} {f : Failure}
    (h : NotLoaded settings.strictDer tree path f) : Refused (.convert path format output) f
  /-- The first file is refused, and it does not matter what becomes of the second one. -/
  | signer {signer signee : Path} {f : Failure}
    (h : NotLoaded settings.strictDer tree signer f) : Refused (.verify signer (some signee)) f
  | signee {signer signee : Path} {first : Certificate} {f : Failure}
    (hfirst : Loaded settings.strictDer tree signer first)
    (h : NotLoaded settings.strictDer tree signee f) : Refused (.verify signer (some signee)) f
  | unverified {signer signee : Path} {first second : Certificate} {f : Failure}
    (hfirst : Loaded settings.strictDer tree signer first)
    (hsecond : Loaded settings.strictDer tree signee second)
    (h : (Pair.mk first second).verify = .error f) : Refused (.verify signer (some signee)) f

/-- **What a command has to tell** when nothing goes wrong. -/
inductive Delivers : Command → Delivery → Prop
  | identify {path : Path} {format : Format}
    (h : Detected settings.strictDer tree path format) :
    Delivers (.identify path) (.ofLines [format.name])
  | info {path : Path} {format : Format} {c : Certificate}
    (hformat : Detected settings.strictDer tree path format)
    (h : Loaded settings.strictDer tree path c) :
    Delivers (.info path) (.ofLines ["subject: " ++ c.subject, "issuer: " ++ c.issuer,
      "format: " ++ format.name, "sha256: " ++ c.fingerprint])
  | convert {path : Path} {format : Option Format} {output : Option Path} {c : Certificate}
    (h : Loaded settings.strictDer tree path c) :
    Delivers (.convert path format output)
      ⟨c.encode (format.getD settings.outputFormat), output⟩
  | verify {signer signee : Path} {first second : Certificate}
    (hfirst : Loaded settings.strictDer tree signer first)
    (hsecond : Loaded settings.strictDer tree signee second)
    (h : (Pair.mk first second).verify = .ok ⟨first, second⟩) :
    Delivers (.verify signer (some signee))
      (.ofLines ["OK: " ++ first.subject ++ " signs " ++ second.subject])

variable {settings tree} {command : Command}

/-- A report needs the format and the certificate, and it fails where the certificate does. -/
theorem describe_error_iff {path : Path} {f : Failure} :
    (do
      let format ← formatOf settings.strictDer tree path
      let certificate ← certificateOf settings.strictDer tree path
      return Delivery.ofLines (report format certificate) : Outcome Delivery) = .error f
      ↔ NotLoaded settings.strictDer tree path f := by
  -- the format comes first, and where it fails the certificate would fail alike
  rw [bind_error_iff, formatOf_error_iff]
  simp only [formatOf_ok_iff, bind_error_iff, certificateOf_error_iff]
  constructor
  · rintro (h | ⟨format, -, h | ⟨c, -, h⟩⟩)
    · exact .undetected h
    · exact h
    · cases h
  · -- without a format there is no certificate either, so it is the same failure
    intro h
    cases h with
    | undetected h => exact .inl h
    | undecoded hread hformat hdecode =>
      exact .inr ⟨_, ⟨_, hread, hformat⟩, .inl (.undecoded hread hformat hdecode)⟩

/-- **An answer is a failure** if the command is refused at one of its stages. -/
theorem answer_error_iff {f : Failure} :
    answer settings tree command = .ok (.error f) ↔ Refused settings tree command f := by
  cases command with
  | identify path =>
    rw [answer, Except.ok.injEq, bind_error_iff, formatOf_error_iff]
    constructor
    · rintro (h | ⟨format, -, h⟩)
      · exact .identify h
      · cases h
    · intro h
      cases h with
      | identify h => exact .inl h
  | info path =>
    rw [answer, Except.ok.injEq, describe_error_iff]
    constructor
    · exact .info
    · intro h
      cases h with
      | info h => exact h
  | convert path format output =>
    rw [answer, Except.ok.injEq, bind_error_iff, certificateOf_error_iff]
    constructor
    · rintro (h | ⟨c, -, h⟩)
      · exact .convert h
      · cases h
    · intro h
      cases h with
      | convert h => exact .inl h
  | verify signer signee =>
    cases signee with
    | none =>
      constructor
      · intro h
        cases h
      · intro h
        cases h
    | some signee =>
      -- the signer, the signee and the check, in this order
      rw [answer, Except.ok.injEq, bind_error_iff, certificateOf_error_iff]
      simp only [certificateOf_ok_iff, bind_error_iff, certificateOf_error_iff]
      constructor
      · rintro (h | ⟨first, hfirst, h | ⟨second, hsecond, h | ⟨pair, -, h⟩⟩⟩)
        · exact .signer h
        · exact .signee hfirst h
        · exact .unverified hfirst hsecond h
        · cases h
      · intro h
        cases h with
        | signer h => exact .inl h
        | signee hfirst h => exact .inr ⟨_, hfirst, .inl h⟩
        | unverified hfirst hsecond h => exact .inr ⟨_, hfirst, .inr ⟨_, hsecond, .inl h⟩⟩

/-- **An answer is a delivery** if all stages of the command go well. -/
theorem answer_ok_iff {delivery : Delivery} :
    answer settings tree command = .ok (.ok delivery)
      ↔ Delivers settings tree command delivery := by
  cases command with
  | identify path =>
    rw [answer, Except.ok.injEq, bind_ok_iff]
    simp only [formatOf_ok_iff]
    constructor
    · rintro ⟨format, hformat, h⟩
      rw [← Except.ok.inj h]
      exact .identify hformat
    · intro h
      cases h with
      | identify hformat => exact ⟨_, hformat, rfl⟩
  | info path =>
    rw [answer, Except.ok.injEq, bind_ok_iff]
    simp only [formatOf_ok_iff, bind_ok_iff, certificateOf_ok_iff]
    constructor
    · rintro ⟨format, hformat, c, hc, h⟩
      rw [← Except.ok.inj h]
      exact .info hformat hc
    · intro h
      cases h with
      | info hformat hc => exact ⟨_, hformat, _, hc, rfl⟩
  | convert path format output =>
    rw [answer, Except.ok.injEq, bind_ok_iff]
    simp only [certificateOf_ok_iff]
    constructor
    · rintro ⟨c, hc, h⟩
      rw [← Except.ok.inj h]
      exact .convert hc
    · intro h
      cases h with
      | convert hc => exact ⟨_, hc, rfl⟩
  | verify signer signee =>
    cases signee with
    | none =>
      constructor
      · intro h
        cases h
      · intro h
        cases h
    | some signee =>
      rw [answer, Except.ok.injEq, bind_ok_iff]
      simp only [bind_ok_iff, certificateOf_ok_iff]
      constructor
      · rintro ⟨first, hfirst, second, hsecond, pair, hpair, h⟩
        -- a pair that is verified is the pair that was looked at
        obtain rfl := (Pair.verify_ok_iff.mp hpair).1
        rw [← Except.ok.inj h]
        exact .verify hfirst hsecond hpair
      · intro h
        cases h with
        | verify hfirst hsecond h => exact ⟨_, hfirst, _, hsecond, _, h, rfl⟩

/-- **A command has an answer** unless it is a check without a second path. -/
theorem refused_or_delivers (hcommand : ∀ signer, command ≠ .verify signer none) :
    (∃ f, Refused settings tree command f)
      ∨ ∃ delivery, Delivers settings tree command delivery := by
  -- the only fault is the missing path, and so every other command has an outcome
  have houtcome : ∃ outcome, answer settings tree command = .ok outcome := by
    cases command with
    | identify path => exact ⟨_, rfl⟩
    | info path => exact ⟨_, rfl⟩
    | convert path format output => exact ⟨_, rfl⟩
    | verify signer signee =>
      cases signee with
      | some signee => exact ⟨_, rfl⟩
      | none => exact absurd rfl (hcommand signer)
  obtain ⟨outcome, h⟩ := houtcome
  cases outcome with
  | error f => exact .inl ⟨f, answer_error_iff.mp h⟩
  | ok delivery => exact .inr ⟨delivery, answer_ok_iff.mp h⟩

end Command
end CertChain
