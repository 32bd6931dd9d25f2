import CertChain.Proofs.Command.Stages
import CertChain.Proofs.Diagnostic
import CertChain.Proofs.FileTree
import CertChain.Proofs.Strictness
import CertChain.Proofs.Watched
import Mathlib

/-!
# All or nothing

A run that carries a command out either delivers what there is to tell, or it leaves everything
as it was and reports one failure in one line. Its exit code says which of the two it was. The
last thing a command does is to deliver, and that is either done or refused as a whole, so
nothing is left half done. A run without settings does neither: it has looked at the settings file
and at nothing else.

`Program.EndsWell` says so for one run. It holds of all runs but those that a fault breaks off
(`Program.endsWell_iff`), and there are two kinds of these: the settings file is no text, or the
command is a check that has lost its second path. On a command line two separators in a row
take the second path away, and nobody finds out before the file is to be read
(`Program.not_endsWell_lostPath`).
-/

namespace CertChain

open CommandLine

namespace Command

variable {settings : Settings} {tree : FileTree} {command : Command}

/-! ### Deliveries -/

/-- **Something has been delivered**: it has been printed, and all files are as they were, or it
has been written to its file, and nothing has been printed. -/
def Delivery.Delivered (delivery : Delivery) (before after : Machine) : Prop :=
  match delivery.target with
  | none => after.printed = before.printed ++ delivery.content ∧ after.tree = before.tree
  | some path =>
    after.printed = before.printed
      ∧ FileTree.Written before.tree path delivery.content after.tree

/-- **Something cannot be delivered**: it is to be printed and the output is not in order, or its
file cannot be written. -/
inductive Delivery.Undelivered (delivery : Delivery) (machine : Machine) : Failure → Prop
  | unprinted {refusal : OutputRefusal} (htarget : delivery.target = none)
      (houtput : machine.output = some refusal) :
      Undelivered delivery machine (unprintable refusal.fault)
  | unwritten {path : Path} {refusal : FileRefusal} (htarget : delivery.target = some path)
      (hwrite : machine.tree.write path delivery.content = .error refusal) :
      Undelivered delivery machine (unwritable path (refusal.fault path))

/-- That it cannot be delivered is told in one line. -/
theorem Delivery.Undelivered.inOneLine {delivery : Delivery} {machine : Machine} {f : Failure}
    (h : delivery.Undelivered machine f) : f.InOneLine := by
  cases h with
  | unprinted => exact oneLine_unprintable _
  | unwritten => exact oneLine_unwritable _ _

/-- Lines are delivered where the output is in order. -/
theorem Delivery.not_undelivered_ofLines {lines : List String} {machine : Machine} {f : Failure}
    (houtput : machine.output = none) : ¬ (Delivery.ofLines lines).Undelivered machine f := by
  intro h
  cases h with
  | unprinted htarget hrefused =>
    rw [houtput] at hrefused
    cases hrefused
  | unwritten htarget hwrite => cases htarget

/-- **What becomes of a delivery**: it is made, or the machine stays as it was. -/
theorem Delivery.on_cases (delivery : Delivery) (machine : Machine) :
    (∃ after, delivery.on machine = (.ok (), after) ∧ delivery.Delivered machine after)
      ∨ ∃ f, delivery.on machine = (.error f, machine) ∧ delivery.Undelivered machine f := by
  obtain ⟨content, target⟩ := delivery
  rw [Delivery.on]
  cases target with
  | none =>
    cases houtput : machine.output with
    | none => exact .inl ⟨_, rfl, rfl, rfl⟩
    | some refusal => exact .inr ⟨_, rfl, .unprinted rfl houtput⟩
  | some path =>
    simp only
    cases hwrite : machine.tree.write path content with
    | ok tree => exact .inl ⟨_, rfl, rfl, FileTree.written_of_write hwrite⟩
    | error refusal => exact .inr ⟨_, rfl, .unwritten rfl hwrite⟩

end Command

namespace Program

open Command

/-! ### How a run should end -/

/-- **Nothing has been touched**: all files are as they were, and nothing has been printed. -/
def Untouched (before after : Machine) : Prop :=
  after.tree = before.tree ∧ after.printed = before.printed

/-- **A failure is reported**, with its detail and in a line of its own. -/
structure Reports (ending : Ending) (f : Failure) : Prop where
  code : ending.code = some 1
  reported : ∃ detail, f.detail = .ok detail
    ∧ ending.diagnostic = some ("error: [" ++ f.code.name ++ "] " ++ detail)
    ∧ OneLine ("error: [" ++ f.code.name ++ "] " ++ detail)

/-- **A command is concluded**: it has been carried out as a whole or not at all. -/
structure Concluded (command : Command) (settings : Settings) (before : Machine)
    (ending : Ending) (after : Machine) : Prop where
  /-- The exit code is zero or one. -/
  code : ending.code = some 0 ∨ ending.code = some 1
  /-- The exit code is zero if and only if the command is a success. -/
  success : ending.code = some 0
    ↔ (command.runOn settings settings.threshold before).1 = .ok (.ok ())
  /-- A command that fails at reading, telling the format, decoding or checking has not touched
  anything, and it is this failure that is reported. -/
  refused : ∀ f, Refused settings before.tree command f →
    Reports ending f ∧ Untouched before after
  /-- A command that fails has been refused like that, or its delivery, which comes at the very
  end, has. -/
  failed : ending.code = some 1 → (∃ f, Refused settings before.tree command f)
    ∨ ∃ delivery f, Delivers settings before.tree command delivery
      ∧ delivery.Undelivered before f ∧ Reports ending f ∧ Untouched before after
  /-- A command that is a success has delivered what it had to tell. -/
  done : ending.code = some 0 → ending.diagnostic = none
    ∧ ∃ delivery, Delivers settings before.tree command delivery
      ∧ delivery.Delivered before after

/-- **A run ends well**: without settings it has read nothing but the settings file, and with
settings the command is concluded. -/
structure EndsWell (line : List String) (invocation : Invocation) (machine : Machine) :
    Prop where
  unsettled : ∀ reason, settingsOn invocation machine = .error reason →
    (performOn line machine).1.code = some 2 ∧ (performOn line machine).2 = machine
      ∧ readOn line machine = [settingsPath]
  settled : ∀ settings, settingsOn invocation machine = .ok settings →
    Concluded invocation.command settings machine (performOn line machine).1
      (performOn line machine).2

/-- **A run is broken off** by a fault: the settings file is no text, or the command is a check
that has lost its second path. -/
def BrokenOff (invocation : Invocation) (machine : Machine) : Prop :=
  (∃ content fault, machine.tree.read settingsPath = .ok content
    ∧ Utf8.decode content = .error fault)
  ∨ ∃ settings signer, settingsOn invocation machine = .ok settings
    ∧ invocation.command = .verify signer none

/-! ### Carrying a command out -/

variable {command : Command} {settings : Settings} {machine : Machine} {invocation : Invocation}

/-- A failure that is told in one line is reported, when a command ends with it. -/
theorem reports_endingOf {f : Failure} (h : f.InOneLine) :
    Reports (endingOf (.ok (.error f))) f := by
  obtain ⟨detail, hdetail, -⟩ := id h
  obtain ⟨text, hdiagnostic, honeLine⟩ := oneLine_diagnostic h
  have htext : (Ending.failed f).diagnostic
      = some ("error: [" ++ f.code.name ++ "] " ++ detail) := by
    rw [Ending.diagnostic, hdetail]
    rfl
  obtain rfl : "error: [" ++ f.code.name ++ "] " ++ detail = text :=
    Option.some.inj (htext.symm.trans hdiagnostic)
  rw [endingOf, Ending.ofFailure_eq h]
  exact ⟨rfl, detail, hdetail, hdiagnostic, honeLine⟩

/-- A command that is refused at one of its stages reports why and touches nothing. -/
theorem reports_of_refused {f : Failure} (h : Refused settings machine.tree command f) :
    Reports (carry command settings machine).1 f
      ∧ Untouched machine (carry command settings machine).2 := by
  have hanswer := answer_error_iff.mpr h
  rw [carry, hanswer]
  exact ⟨reports_endingOf (answer_oneLine settings machine.tree hanswer), rfl, rfl⟩

/-- A command that has something to tell delivers it, or it reports that it cannot and touches
nothing. -/
theorem carry_of_delivers {delivery : Delivery}
    (h : Delivers settings machine.tree command delivery) :
    ((carry command settings machine).1 = .done
        ∧ delivery.Delivered machine (carry command settings machine).2)
      ∨ ∃ f, delivery.Undelivered machine f
        ∧ Reports (carry command settings machine).1 f
        ∧ Untouched machine (carry command settings machine).2 := by
  rw [carry, answer_ok_iff.mpr h]
  -- the entries that are made first are in the log only
  generalize hentered : machine.recordAll settings.threshold _ = entered
  have htree : entered.tree = machine.tree := by rw [← hentered]; rfl
  have houtput : entered.output = machine.output := by rw [← hentered]; rfl
  have hprinted : entered.printed = machine.printed := by rw [← hentered]; rfl
  rcases delivery.on_cases entered with ⟨after, hon, hdelivered⟩ | ⟨f, hon, hundelivered⟩
  · left
    -- the delivery is the last thing that happens, so the run ends as the delivery does
    show endingOf (.ok (delivery.on entered).1) = .done
      ∧ delivery.Delivered machine (delivery.on entered).2
    rw [hon]
    refine ⟨rfl, ?_⟩
    rw [Delivery.Delivered, htree, hprinted] at hdelivered
    exact hdelivered
  · right
    show ∃ f, delivery.Undelivered machine f
      ∧ Reports (endingOf (.ok (delivery.on entered).1)) f
      ∧ Untouched machine (delivery.on entered).2
    rw [hon]
    refine ⟨f, ?_, reports_endingOf hundelivered.inOneLine, htree, hprinted⟩
    -- whether something can be delivered is not up to the log
    cases hundelivered with
    | unprinted htarget hrefused => exact .unprinted htarget (houtput ▸ hrefused)
    | unwritten htarget hwrite => exact .unwritten htarget (htree ▸ hwrite)

/-- The exit code is zero if the command is a success. -/
theorem code_carry_iff : (carry command settings machine).1.code = some 0
    ↔ (command.runOn settings settings.threshold machine).1 = .ok (.ok ()) := by
  have hending : ∀ result, (endingOf result).code = some 0 ↔ result = .ok (.ok ()) := by
    intro result
    constructor
    · intro h
      rcases result with fault | failure | ⟨⟩
      · cases h
      · exact absurd h (Ending.code_ofFailure_ne failure (by decide))
      · rfl
    · rintro rfl
      rfl
  -- the two machines differ in what is in the log before the answer is given
  have hgive : ∀ events, (give (command.answer settings machine.tree)
      (machine.recordAll settings.threshold events)).1
        = (give (command.answer settings machine.tree) machine).1 := fun events =>
    (give_alike _ (machine.alike_recordAll settings.threshold events)).1
  rw [runOn_eq, carry, hending]
  simp only [hgive]

/-- **A command is concluded** unless it is a check without a second path. -/
theorem concluded_carry (hcommand : ∀ signer, command ≠ .verify signer none) :
    Concluded command settings machine (carry command settings machine).1
      (carry command settings machine).2 where
  code := by
    -- there is an answer, and it is a failure or something to deliver
    rcases refused_or_delivers hcommand with ⟨f, h⟩ | ⟨delivery, h⟩
    · exact .inr (reports_of_refused h).1.code
    · rcases carry_of_delivers h with ⟨hdone, -⟩ | ⟨f, -, hreports, -⟩
      · rw [hdone]
        exact .inl rfl
      · exact .inr hreports.code
  success := code_carry_iff
  refused _ h := reports_of_refused h
  failed hcode := by
    rcases refused_or_delivers hcommand with hrefused | ⟨delivery, h⟩
    · exact .inl hrefused
    · rcases carry_of_delivers h with ⟨hdone, -⟩ | ⟨f, hundelivered, hreports, huntouched⟩
      · rw [hdone] at hcode
        cases hcode
      · exact .inr ⟨delivery, f, h, hundelivered, hreports, huntouched⟩
  done hcode := by
    rcases refused_or_delivers hcommand with ⟨f, h⟩ | ⟨delivery, h⟩
    · rw [(reports_of_refused h).1.code] at hcode
      cases hcode
    · rcases carry_of_delivers h with ⟨hdone, hdelivered⟩ | ⟨f, -, hreports, -⟩
      · rw [hdone]
        exact ⟨rfl, delivery, h, hdelivered⟩
      · rw [hreports.code] at hcode
        cases hcode

/-! ### Runs that are broken off -/

theorem toOption_readFile_iff {path : Path} {content : Bytes} :
    (machine.readFile path).toOption = some content ↔ machine.tree.read path = .ok content := by
  rw [Machine.readFile]
  cases machine.tree.read path with
  | error refusal =>
    constructor
    · intro h
      cases h
    · intro h
      cases h
  | ok held =>
    show some held = some content ↔ _
    rw [Option.some.injEq, Except.ok.injEq]

/-- The settings file is no text. -/
theorem settingsOn_notText_iff {fault : Utf8.Fault} :
    settingsOn invocation machine = .error (.notText fault)
      ↔ ∃ content, machine.tree.read settingsPath = .ok content
        ∧ Utf8.decode content = .error fault := by
  rw [settingsOn, Settings.load_notText_iff, Settings.tableOf_error_iff]
  simp only [toOption_readFile_iff]

/-- A run that is broken off has no exit code. -/
theorem not_endsWell_of_brokenOff {line : List String}
    (hline : Invocation.read line = .ok invocation) (h : BrokenOff invocation machine) :
    ¬ EndsWell line invocation machine := by
  intro hends
  rcases h with ⟨content, fault, hread, hdecode⟩ | ⟨settings, signer, hsettings, hcommand⟩
  · -- there are no settings, and yet nothing that could be said about them
    have hsettings : settingsOn invocation machine = .error (.notText fault) :=
      settingsOn_notText_iff.mpr ⟨content, hread, hdecode⟩
    have hcode := (hends.unsettled _ hsettings).1
    rw [performOn_eq hline, hsettings] at hcode
    cases hcode
  · -- the command is carried out, up to a path that is none
    have hcode := (hends.settled settings hsettings).code
    rw [performOn_eq hline, hsettings, hcommand] at hcode
    rcases hcode with h | h
    · cases h
    · cases h

/-- A run that is not broken off finds settings and concludes the command, or it finds that some
are wrong. -/
theorem endsWell_of_not_brokenOff {line : List String}
    (hline : Invocation.read line = .ok invocation) (h : ¬ BrokenOff invocation machine) :
    EndsWell line invocation machine where
  unsettled reason hsettings := by
    rw [readOn_of_unsettled hline hsettings, performOn_eq hline, hsettings]
    cases reason with
    | invalid problems => exact ⟨rfl, rfl, rfl⟩
    | notText fault =>
      obtain ⟨content, hcontent⟩ := settingsOn_notText_iff.mp hsettings
      exact absurd (.inl ⟨content, fault, hcontent⟩) h
  settled settings hsettings := by
    rw [performOn_eq hline, hsettings]
    exact concluded_carry fun signer hlost => h (.inr ⟨settings, signer, hsettings, hlost⟩)

/-! ### All or nothing -/

/-- **A run ends well unless it is broken off.** This is so for every command line that can be
read, and on every machine. -/
theorem endsWell_iff {line : List String} {invocation : Invocation}
    (hline : Invocation.read line = .ok invocation) (machine : Machine) :
    EndsWell line invocation machine ↔ ¬ BrokenOff invocation machine := by
  constructor
  · intro hends hbroken
    exact not_endsWell_of_brokenOff hline hbroken hends
  · exact endsWell_of_not_brokenOff hline

/-- A machine with one file, which holds a certificate. -/
def sampleMachine : Machine :=
  .fresh ⟨[(⟨.above 0, ["x"]⟩, .file (Certificate.sample Algorithm.ed25519).toDer)]⟩ []

theorem loaded_sampleMachine :
    Detected false sampleMachine.tree (.ofText "x") .der
      ∧ Loaded false sampleMachine.tree (.ofText "x") (Certificate.sample Algorithm.ed25519) := by
  have hpath : Path.ofText "x" = ⟨.here, ["x"]⟩ := by cbv
  have hread : sampleMachine.tree.read (.ofText "x")
      = .ok (Certificate.sample Algorithm.ed25519).toDer := by
    rw [hpath]
    rfl
  have hformat := Certificate.identify_toDer (Certificate.sample Algorithm.ed25519) false
  have hdecode := Certificate.decode_encode Certificate.decoded_sample.readDer_toDer .der
  exact ⟨⟨_, hread, hformat⟩, _, _, hread, hformat, hdecode⟩

theorem settingsOn_sampleMachine :
    settingsOn ⟨none, false, .info (.ofText "x")⟩ sampleMachine = .ok ⟨"INFO", false, .pem⟩ := by
  have hpath : settingsPath = ⟨.here, [".env"]⟩ := by cbv
  have hread : sampleMachine.tree.read settingsPath = .error .noEntry := by
    rw [hpath]
    rfl
  rw [settingsOn_of_unread hread]
  rfl

/-- There is no settings file, and the certificate in the file is told about. -/
theorem endsWell_sampleMachine :
    Invocation.read ["info", "x"] = .ok ⟨none, false, .info (.ofText "x")⟩
      ∧ EndsWell ["info", "x"] ⟨none, false, .info (.ofText "x")⟩ sampleMachine
      ∧ (performOn ["info", "x"] sampleMachine).1.code = some 0 := by
  have hends : EndsWell ["info", "x"] ⟨none, false, .info (.ofText "x")⟩ sampleMachine := by
    refine (endsWell_iff read_info sampleMachine).mpr ?_
    rintro (⟨content, fault, hread, hdecode⟩ | ⟨settings, signer, -, hcommand⟩)
    · have hnone : settingsOn ⟨none, false, .info (.ofText "x")⟩ sampleMachine
          = .error (.notText fault) :=
        settingsOn_notText_iff.mpr ⟨content, hread, hdecode⟩
      rw [settingsOn_sampleMachine] at hnone
      cases hnone
    · cases hcommand
  refine ⟨read_info, hends, ?_⟩
  have hdelivers : Delivers ⟨"INFO", false, .pem⟩ sampleMachine.tree (.info (.ofText "x")) _ :=
    .info loaded_sampleMachine.1 loaded_sampleMachine.2
  refine (hends.settled _ settingsOn_sampleMachine).success.mpr ?_
  rw [runOn_eq, answer_ok_iff.mpr hdelivers]
  rfl

theorem read_lostPath : Invocation.read ["verify", "a", "--", "--"]
    = .ok ⟨none, false, .verify (.ofText "a") none⟩ := by
  -- behind the name of the command there are two operands, and the second of them is nothing
  let inner : Grammar Switch := ⟨"attest-cert verify", [helpRule], ["signer", "signee"]⟩
  have hscan : inner.scan .empty [⟨"a", .operand⟩, ⟨"--", .separator⟩, ⟨"--", .operand⟩]
      = .ok ⟨[], [some "a", none], []⟩ := by
    simp [inner, Grammar.scan, Grammar.isOpen, Grammar.Reading.add, Grammar.Reading.empty,
      Grammar.operandOf, separator]
  have hread : inner.read ["a", "--", "--"] = .ok ⟨[], [some "a", none], []⟩ :=
    inner.read_of_scan rfl hscan rfl
  exact Invocation.read_of_command rfl rfl rfl hread rfl rfl

/-- **A check that has lost its second path** does not end well. The second separator stands
where the path should be, and is no path. -/
theorem not_endsWell_lostPath :
    Invocation.read ["verify", "a", "--", "--"] = .ok ⟨none, false, .verify (.ofText "a") none⟩
      ∧ ¬ EndsWell ["verify", "a", "--", "--"] ⟨none, false, .verify (.ofText "a") none⟩
        (bareMachine []) := by
  have hsettings : settingsOn ⟨none, false, .verify (.ofText "a") none⟩ (bareMachine [])
      = .ok ⟨"INFO", false, .pem⟩ := by
    rw [settingsOn_bare]
    rfl
  refine ⟨read_lostPath, not_endsWell_of_brokenOff read_lostPath ?_⟩
  exact .inr ⟨_, _, hsettings, rfl⟩

end Program
end CertChain
