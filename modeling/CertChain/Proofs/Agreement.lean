import CertChain.Proofs.Certificate.InHand
import CertChain.Proofs.Conversion

/-!
# Three ways to look at a file

The format of a file is told by a command of its own, it stands in a report on the file, and a
loader has to know it before it can decode anything. Each of the three classifies the content
anew: a report does so twice, once for the line about the format and once more in the loader that
it asks for the certificate. It asks for both before it looks at either of them, and then the
failure of the first one counts (`Command.described`).

So there could be different verdicts on one file. There are not, and the reason is that whatever
the classification refuses is refused by the loader with the same failure
(`Command.described_of_error`). The first failure of the two is therefore always the loader's, and
a format that a report mentions is the one in which the certificate was decoded
(`Command.described_of_ok`). `Command.one_verdict` says what this comes to for the commands.
-/

namespace CertChain

/-- What a loader makes of octets, besides the entry in the log. -/
def Loader.outcome (loader : Loader) (content : Bytes) : Outcome Certificate :=
  (Logged.collect (loader.load content)).1

/-- A loader decodes what it is given, with its own strictness. -/
theorem Loader.outcome_eq (strict : Bool) (content : Bytes) :
    (Loader.mk strict).outcome content = Certificate.fromBytes strict content :=
  rfl

namespace Command

variable {strict : Bool} {content : Bytes}

/-! ### What a report is made of -/

/-- **The lines of a report**, made of a format and of a certificate that are looked for apart. -/
def described (strict : Bool) (content : Bytes) : Except Fault (Outcome (List String)) :=
  Outcome.combine (CertChain.identify strict content) ((Loader.mk strict).outcome content)
    fun format c => pure (report format c)

/-- A certificate that is loaded has been decoded in the format that the content is told to be
in, and these two are reported. -/
theorem described_of_ok {c : Certificate} (h : (Loader.mk strict).outcome content = .ok c) :
    ∃ format, CertChain.identify strict content = .ok format
      ∧ Certificate.decode format content = .ok c
      ∧ described strict content = .ok (.ok (report format c)) := by
  obtain ⟨format, hformat, hdecode⟩ := Certificate.fromBytes_ok h
  refine ⟨format, hformat, hdecode, ?_⟩
  rw [described, hformat, h]
  rfl

/-- **The first failure is the loader's**, whether it is the format that cannot be told or the
certificate that cannot be decoded. -/
theorem described_of_error {f : Failure} (h : (Loader.mk strict).outcome content = .error f) :
    (CertChain.identify strict content = .error f
      ∨ ∃ format, CertChain.identify strict content = .ok format
        ∧ Certificate.decode format content = .error f)
    ∧ described strict content = .ok (.error f) := by
  -- the loader fails at the format or behind it
  have hcases := bind_error_iff.mp h
  refine ⟨hcases, ?_⟩
  rw [described, h]
  rcases hcases with hformat | ⟨format, hformat, -⟩
  · -- the format comes first, and the loader has failed for the same reason
    rw [hformat]
    rfl
  · rw [hformat]
    rfl

/-- A report on a file is made of what is described of its content. -/
theorem answer_info {settings : Settings} {tree : FileTree} {path : Path}
    (hread : tree.read path = .ok content) {outcome : Outcome (List String)}
    (h : described settings.strictDer content = .ok outcome) :
    answer settings tree (.info path) = .ok (Delivery.ofLines <$> outcome) := by
  have hcontent := contentOf_ok_iff.mpr hread
  have hanswer : answer settings tree (.info path) = .ok (do
      let format ← CertChain.identify settings.strictDer content
      let c ← Certificate.fromBytes settings.strictDer content
      return Delivery.ofLines (report format c)) := by
    rw [answer, formatOf, certificateOf, hcontent]
    rfl
  rw [described, Loader.outcome_eq] at h
  rw [hanswer]
  -- here and there the format is looked at before the certificate
  cases hformat : CertChain.identify settings.strictDer content with
  | error f =>
    rw [hformat] at h
    cases h
    rfl
  | ok format =>
    rw [hformat] at h
    cases hload : Certificate.fromBytes settings.strictDer content with
    | error f =>
      rw [hload] at h
      cases h
      rfl
    | ok c =>
      rw [hload] at h
      cases h
      rfl

/-- To identify a file is to tell the name of its format. -/
theorem answer_identify {settings : Settings} {tree : FileTree} {path : Path}
    (hread : tree.read path = .ok content) {format : Format}
    (h : CertChain.identify settings.strictDer content = .ok format) :
    answer settings tree (.identify path) = .ok (.ok (.ofLines [format.name])) := by
  have hcontent := contentOf_ok_iff.mpr hread
  rw [answer, formatOf, hcontent, Outcome.ok_bind, h]
  rfl

/-! ### What becomes of the commands -/

section Commands

variable {settings : Settings} {threshold : Nat} {machine : Machine} {command : Command}
  {path : Path} {f : Failure}

/-- **A command tells its lines**: it comes to what the delivery of the lines comes to. On a
machine whose output is in order it is a success and the lines are printed, and on any other it is
the output that it fails for. -/
def Tells (command : Command) (settings : Settings) (threshold : Nat) (machine : Machine)
    (lines : List String) : Prop :=
  (command.runOn settings threshold machine).1 = .ok ((Delivery.ofLines lines).on machine).1
    ∧ (command.runOn settings threshold machine).2.printed
      = ((Delivery.ofLines lines).on machine).2.printed

/-- **A command fails** before there is anything to tell, and nothing is printed. That the output
is not in order is no such failure. -/
structure Fails (command : Command) (settings : Settings) (threshold : Nat) (machine : Machine)
    (f : Failure) : Prop where
  fails : (command.runOn settings threshold machine).1 = .ok (.error f)
  printed : (command.runOn settings threshold machine).2.printed = machine.printed
  early : ∀ refusal : OutputRefusal, f ≠ unprintable refusal.fault

/-- Where the output is in order, to tell lines is to succeed and to print them. -/
theorem tells_iff (houtput : machine.output = none) {lines : List String} :
    command.Tells settings threshold machine lines
      ↔ (command.runOn settings threshold machine).1 = .ok (.ok ())
        ∧ (command.runOn settings threshold machine).2.printed
          = machine.printed ++ (Delivery.ofLines lines).content := by
  have hon : (Delivery.ofLines lines).on machine
      = (.ok (),
          { machine with printed := machine.printed ++ (Delivery.ofLines lines).content }) := by
    rw [Delivery.on, Delivery.ofLines]
    simp only [houtput]
  rw [Tells, hon]

/-- What is answered with lines tells them. -/
theorem tells_of_answer {lines : List String}
    (h : answer settings machine.tree command = .ok (.ok (.ofLines lines))) :
    command.Tells settings threshold machine lines := by
  rw [Tells, runOn_eq, h]
  -- the entries in the log change nothing that a delivery looks at
  obtain ⟨hfirst, hsecond⟩ := (Delivery.ofLines lines).on_alike
    (machine.alike_recordAll threshold (entries settings machine.tree command))
  exact ⟨congrArg Except.ok hfirst, hsecond.printed⟩

/-- What is answered with a failure fails, and nothing is printed before. -/
theorem fails_of_answer (h : answer settings machine.tree command = .ok (.error f))
    (hearly : ∀ refusal : OutputRefusal, f ≠ unprintable refusal.fault) :
    command.Fails settings threshold machine f := by
  have hrun := command.runOn_eq settings threshold machine
  rw [h] at hrun
  exact ⟨by rw [hrun]; rfl, by rw [hrun]; rfl, hearly⟩

/-- The format of a file is not told only if it cannot be, or if nothing can be printed. -/
theorem notDetected_of_fails (h : (Command.identify path).Fails settings threshold machine f) :
    NotDetected settings.strictDer machine.tree path f := by
  have hfails := h.fails
  rw [runOn_eq, answer] at hfails
  rw [← formatOf_error_iff]
  cases hformat : formatOf settings.strictDer machine.tree path with
  | ok format =>
    rw [hformat] at hfails
    -- the format is there to be told, so what fails is the delivery
    have hon : ((Delivery.ofLines [format.name]).on
        (machine.recordAll threshold _)).1 = .error f := Except.ok.inj hfails
    rcases (Delivery.ofLines [format.name]).on_cases _ with ⟨after, hok, -⟩ | ⟨g, hno, hundelivered⟩
    · rw [hok] at hon
      cases hon
    · rw [hno] at hon
      cases hon
      cases hundelivered with
      | unprinted htarget houtput => exact absurd rfl (h.early _)
      | unwritten htarget hwrite => cases htarget
  | error g =>
    rw [hformat] at hfails
    cases hfails
    rfl

/-- The failure of a loader is not about the output. -/
theorem ne_unprintable_of_outcome {strict : Bool} {content : Bytes}
    (h : (Loader.mk strict).outcome content = .error f) (refusal : OutputRefusal) :
    f ≠ unprintable refusal.fault := by
  rintro rfl
  -- a loader has few codes for its failures, and that of the output is not among them
  have hcode : ErrorCode.ioError ∈ _ := Certificate.Decoder.read_error (d := .any strict) h
  exact absurd hcode (by decide)

/-- **There is one verdict on a file.** If its format cannot be told a report on it fails, and for
the same reason. If a loader finds a certificate in it, then a format is told, the report names
the same format and the certificate, and the certificate is what the content is decoded as in
this format. If the loader finds none, it is the loader's failure with which the report fails,
fault included, be it that of the format or that of the certificate. -/
theorem one_verdict (settings : Settings) (threshold : Nat) (machine : Machine) (path : Path) :
    (∀ f, (Command.identify path).Fails settings threshold machine f →
      (Command.info path).Fails settings threshold machine f)
    ∧ ∀ content, machine.tree.read path = .ok content →
      (∀ c, (Loader.mk settings.strictDer).outcome content = .ok c →
        ∃ format, CertChain.identify settings.strictDer content = .ok format
          ∧ Certificate.decode format content = .ok c
          ∧ (Command.identify path).Tells settings threshold machine [format.name]
          ∧ (Command.info path).Tells settings threshold machine
            ["subject: " ++ c.subject, "issuer: " ++ c.issuer, "format: " ++ format.name,
              "sha256: " ++ c.fingerprint])
      ∧ ∀ f, (Loader.mk settings.strictDer).outcome content = .error f →
        (CertChain.identify settings.strictDer content = .error f
          ∨ ∃ format, CertChain.identify settings.strictDer content = .ok format
            ∧ Certificate.decode format content = .error f)
        ∧ (Command.info path).Fails settings threshold machine f := by
  refine ⟨?_, ?_⟩
  · intro f hfails
    -- a failure of the first command is about the file, and then the second one meets it as well
    have hnone := notDetected_of_fails hfails
    exact fails_of_answer (answer_error_iff.mpr (.info (.undetected hnone))) hfails.early
  · intro content hread
    refine ⟨?_, ?_⟩
    · intro c hload
      obtain ⟨format, hformat, hdecode, hlines⟩ := described_of_ok hload
      have htold := answer_identify hread hformat
      have hreport := answer_info hread hlines
      exact ⟨format, hformat, hdecode, tells_of_answer htold, tells_of_answer hreport⟩
    · intro f hload
      obtain ⟨hfirst, hlines⟩ := described_of_error hload
      have hreport := answer_info hread hlines
      exact ⟨hfirst, fails_of_answer hreport (ne_unprintable_of_outcome hload)⟩

end Commands

/-- A file with a certificate, which a strict loader takes, and a file of zeros, of which it
cannot tell what they are. -/
theorem one_verdict_samples :
    let settings : Settings := ⟨"INFO", true, .pem⟩
    let c := Certificate.sample Algorithm.ed25519
    let good := Machine.fresh (Program.oneFile c.toDer) []
    let bad := Machine.fresh (Program.oneFile (List.replicate 27 0)) []
    (Command.identify (.ofText "x")).Tells settings 20 good ["der"]
      ∧ (Command.info (.ofText "x")).Tells settings 20 good
        ["subject: CN=a", "issuer: CN=ca", "format: der", "sha256: " ++ c.fingerprint]
      ∧ (Command.identify (.ofText "x")).Fails settings 20 bad (unrecognized 0)
      ∧ (Command.info (.ofText "x")).Fails settings 20 bad (unrecognized 0) := by
  intro settings c good bad
  have hload : (Loader.mk true).outcome c.toDer = .ok c :=
    Certificate.decoded_sample.fromBytes_eq .der true
  obtain ⟨format, hformat, -, htold, hreport⟩ :=
    ((one_verdict settings 20 good (.ofText "x")).2 _ (Program.read_oneFile _)).1 c hload
  cases (c.identify_toDer true).symm.trans hformat
  have hzeros : CertChain.identify true (List.replicate 27 0) = .error (unrecognized 0) := by
    rw [List.replicate_succ]
    exact identify_of_other (by decide) (by decide) (by decide)
  have hnone : (Command.identify (.ofText "x")).Fails settings 20 bad (unrecognized 0) := by
    refine fails_of_answer ?_ fun refusal hsame => (nomatch congrArg Failure.code hsame)
    rw [answer_error_iff]
    exact .identify (.unidentified (Program.read_oneFile _) hzeros)
  exact ⟨htold, hreport, hnone, (one_verdict settings 20 bad (.ofText "x")).1 _ hnone⟩

end Command
end CertChain
