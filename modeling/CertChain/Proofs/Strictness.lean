import CertChain.Proofs.Acceptance
import CertChain.Proofs.CommandLine
import CertChain.Proofs.Program
import CertChain.Proofs.Settings

/-!
# Strictness never decides acceptance

The commands that look at certificates answer the same way, strict or not, because the readers
accept the same octets. Two answers are on one track (`Outcome.SameTrack`) when they are
successes with the same value or both failures. What goes on from there stays on it, so this
is shown reader by reader and command by command (`Command.answer_sameAnswer`).

A run of the program that chooses strictness then ends with the same code as one that does
not, and leaves the same output and files behind. Its settings are all that it may owe to the
choice: a value for strictness in the environment or in the settings file is not looked at when
the caller chooses. If that value was wrong, and nothing else was, only one of the two runs has
settings, and `Program.endsAlike_iff` is that they differ in no other case.
-/

namespace CertChain

/-! ### Outcomes on one track -/

/-- Two successes with one value, or two failures. -/
inductive Outcome.SameTrack {α : Type} : Outcome α → Outcome α → Prop where
  | success (a : α) : SameTrack (.ok a) (.ok a)
  | failure (f g : Failure) : SameTrack (.error f) (.error g)

namespace Outcome

variable {α β : Type}

/-- An outcome is on one track with itself. -/
theorem SameTrack.refl (outcome : Outcome α) : SameTrack outcome outcome := by
  cases outcome with
  | ok a => exact .success a
  | error f => exact .failure f f

/-- Outcomes that succeed with the same values are on one track, whatever their failures are. -/
theorem SameTrack.of_ok_iff {first second : Outcome α}
    (h : ∀ a, first = .ok a ↔ second = .ok a) : SameTrack first second := by
  -- a success has to be matched by one with the same value
  cases first with
  | ok a =>
    rw [(h a).mp rfl]
    exact .success a
  | error f =>
    cases second with
    | ok a => cases (h a).mpr rfl
    | error g => exact .failure f g

/-- What goes on from a value goes on from it on both tracks. -/
theorem SameTrack.bind {first second : Outcome α} {f g : α → Outcome β}
    (h : SameTrack first second) (hmore : ∀ a, SameTrack (f a) (g a)) :
    SameTrack (first >>= f) (second >>= g) := by
  cases h with
  | success a => exact hmore a
  | failure e e' => exact .failure e e'

end Outcome

/-! ### Commands -/

namespace Command

section Answers

variable (strict other : Bool) (tree : FileTree)

/-- A file is loaded by both readers or by neither. -/
theorem certificateOf_sameTrack (path : Path) :
    (certificateOf strict tree path).SameTrack (certificateOf other tree path) := by
  unfold certificateOf
  refine (Outcome.SameTrack.refl (contentOf tree path)).bind fun content => ?_
  exact .of_ok_iff (Certificate.fromBytes_ok_iff strict other)

/-- Of octets that are unlike, a report fails somewhere. -/
theorem report_fails_of_unlike {content : Bytes} (h : Unlike content) (strict : Bool) :
    ∃ f, (do
      let format ← CertChain.identify strict content
      let certificate ← Certificate.fromBytes strict content
      return Delivery.ofLines (report format certificate) : Outcome Delivery) = .error f := by
  -- the certificate is refused for certain; whether the format is does not matter
  obtain ⟨f, hf⟩ := Certificate.fromBytes_fails_of_unlike h strict
  rw [hf]
  cases CertChain.identify strict content with
  | ok format => exact ⟨f, rfl⟩
  | error g => exact ⟨g, rfl⟩

/-- Reports on a file are on one track. -/
theorem report_sameTrack (path : Path) :
    (do
      let format ← formatOf strict tree path
      let certificate ← certificateOf strict tree path
      return Delivery.ofLines (report format certificate) : Outcome Delivery).SameTrack (do
      let format ← formatOf other tree path
      let certificate ← certificateOf other tree path
      return Delivery.ofLines (report format certificate)) := by
  unfold formatOf certificateOf
  cases contentOf tree path with
  | error f => exact .failure f f
  | ok content =>
    simp only [Outcome.ok_bind]
    -- a lenient report finds a format where a strict one finds none, and fails one step later
    by_cases h : Unlike content
    · obtain ⟨f, hf⟩ := report_fails_of_unlike h strict
      obtain ⟨g, hg⟩ := report_fails_of_unlike h other
      rw [hf, hg]
      exact .failure f g
    · rw [Certificate.identify_of_not_unlike h strict, Certificate.identify_of_not_unlike h other,
        Certificate.fromBytes_of_not_unlike h strict, Certificate.fromBytes_of_not_unlike h other]
      exact .refl _

/-- A command that looks at certificates. -/
def LooksAtCertificates (command : Command) : Prop :=
  ∀ path, command ≠ .identify path

/-- Answers on one track, or the same fault. -/
inductive SameAnswer :
    Except Fault (Outcome Delivery) → Except Fault (Outcome Delivery) → Prop where
  | settled {first second : Outcome Delivery} (h : first.SameTrack second) :
      SameAnswer (.ok first) (.ok second)
  | fault (fault : Fault) : SameAnswer (.error fault) (.error fault)

/-- **Commands answer the same way**, however strictly they read. -/
theorem answer_sameAnswer {command : Command} (h : command.LooksAtCertificates)
    (settings : Settings) :
    SameAnswer (answer { settings with strictDer := strict } tree command)
      (answer { settings with strictDer := other } tree command) := by
  cases command with
  | identify path => exact absurd rfl (h path)
  | info path => exact .settled (report_sameTrack strict other tree path)
  | convert path format output =>
    refine .settled ((certificateOf_sameTrack strict other tree path).bind fun certificate => ?_)
    exact .refl _
  | verify signer signee =>
    cases signee with
    | none =>
      -- a path that is missing is a fault, whatever the files hold
      exact .fault noPath
    | some signee =>
      refine .settled ((certificateOf_sameTrack strict other tree signer).bind fun first => ?_)
      refine (certificateOf_sameTrack strict other tree signee).bind fun second => ?_
      exact .refl _

end Answers
end Command

/-! ### Machines -/

/-- Machines that differ in their logs at most. -/
structure Machine.Alike (machine other : Machine) : Prop where
  tree : machine.tree = other.tree
  output : machine.output = other.output
  printed : machine.printed = other.printed

/-- Entries change the log only. -/
theorem Machine.alike_recordAll (machine : Machine) (threshold : Nat) (events : List Event) :
    (machine.recordAll threshold events).Alike machine :=
  ⟨rfl, rfl, rfl⟩

/-- Runs that end with the same code and leave the same output and files. -/
structure Program.EndsAlike (run other : Program.Ending × Machine) : Prop where
  code : run.1.code = other.1.code
  machine : run.2.Alike other.2

/-- A run ends like itself. -/
theorem Program.EndsAlike.refl (run : Program.Ending × Machine) : Program.EndsAlike run run :=
  ⟨rfl, rfl, rfl, rfl⟩

namespace Command

variable {machine other : Machine}

/-- A delivery does not look at the log. -/
theorem Delivery.on_alike (delivery : Delivery) (h : machine.Alike other) :
    (delivery.on machine).1 = (delivery.on other).1
      ∧ (delivery.on machine).2.Alike (delivery.on other).2 := by
  -- where it goes, and whether it can, is the same on both
  unfold Delivery.on
  cases delivery.target with
  | none =>
    simp only [h.output]
    cases other.output with
    | none => exact ⟨rfl, h.tree, rfl, congrArg (· ++ delivery.content) h.printed⟩
    | some refusal => exact ⟨rfl, h⟩
  | some path =>
    simp only [h.tree]
    cases other.tree.write path delivery.content with
    | ok tree => exact ⟨rfl, rfl, h.output, h.printed⟩
    | error refusal => exact ⟨rfl, h⟩

/-- **An answer is given alike** on machines that differ in their logs at most. -/
theorem give_alike (answer : Except Fault (Outcome Delivery)) (h : machine.Alike other) :
    (give answer machine).1 = (give answer other).1
      ∧ (give answer machine).2.Alike (give answer other).2 := by
  rcases answer with fault | failure | delivery
  · exact ⟨rfl, h⟩
  · exact ⟨rfl, h⟩
  · obtain ⟨hfirst, hsecond⟩ := delivery.on_alike h
    exact ⟨congrArg Except.ok hfirst, hsecond⟩

/-- **Answers on one track** end a program alike, if their failures can be told. -/
theorem give_endsAlike {first second : Except Fault (Outcome Delivery)}
    (h : SameAnswer first second) (hfirst : ∀ f, first = .ok (.error f) → f.InOneLine)
    (hsecond : ∀ g, second = .ok (.error g) → g.InOneLine) (halike : machine.Alike other) :
    Program.EndsAlike (Program.endingOf (give first machine).1, (give first machine).2)
      (Program.endingOf (give second other).1, (give second other).2) := by
  cases h with
  | fault fault => exact ⟨rfl, halike⟩
  | settled h =>
    cases h with
    | failure f g =>
      refine ⟨?_, halike⟩
      show (Program.Ending.ofFailure f).code = (Program.Ending.ofFailure g).code
      rw [Program.Ending.ofFailure_eq (hfirst f rfl), Program.Ending.ofFailure_eq (hsecond g rfl)]
      rfl
    | success delivery =>
      obtain ⟨hsame, hafter⟩ := give_alike (.ok (.ok delivery)) halike
      exact ⟨congrArg (fun result => (Program.endingOf result).code) hsame, hafter⟩

end Command

/-! ### Runs of the program -/

namespace Program

open CommandLine Program

variable {command : Command} {invocation : Invocation} {line choosing : List String}

/-- A command that looks at certificates ends a run alike, strict or not. -/
theorem carry_endsAlike (h : command.LooksAtCertificates)
    (settings : Settings) (strict other : Bool) (machine : Machine) :
    EndsAlike (carry command { settings with strictDer := strict } machine)
      (carry command { settings with strictDer := other } machine) := by
  have hanswer := Command.answer_sameAnswer strict other machine.tree h settings
  -- the entries that are made first may differ, but they are in the log only
  exact Command.give_endsAlike hanswer (fun _ => Command.answer_oneLine _ machine.tree)
    (fun _ => Command.answer_oneLine _ machine.tree) ⟨rfl, rfl, rfl⟩

/-- A command that is carried out does not complain about settings. -/
theorem code_carry_ne (command : Command) (settings : Settings) (machine : Machine) :
    (carry command settings machine).1.code ≠ some 2 := by
  -- only the settings end a run with this code, and they are there
  have hending : ∀ result, (endingOf result).code ≠ some 2 := by
    intro result h
    rcases result with fault | failure | ⟨⟩
    · cases h
    · rw [endingOf] at h
      exact Ending.code_ofFailure_ne failure (by decide) h
    · cases h
  exact hending _

/-- So its ending is none of a run without settings. -/
theorem carry_ne_unsettled (command : Command) (settings : Settings) (machine : Machine)
    (problems : List Problem) : (carry command settings machine).1 ≠ .unsettled problems := by
  intro h
  apply code_carry_ne command settings machine
  rw [h]
  rfl

/-- **Settings with and without the choice**: they differ in strictness at most, or only one
run has some because the value for strictness is wrong, or neither has. -/
theorem settingsOn_strictly (invocation : Invocation) (machine : Machine) :
    (∃ settings, settingsOn invocation machine = .ok settings
      ∧ settingsOn invocation.strictly machine = .ok { settings with strictDer := true })
    ∨ (∃ p settings, settingsOn invocation machine = .error (.invalid [p])
      ∧ p.setting = .strictDer ∧ settingsOn invocation.strictly machine = .ok settings)
    ∨ (∃ problems more, settingsOn invocation machine = .error (.invalid problems)
      ∧ (∃ p ∈ problems, p.setting ≠ .strictDer)
      ∧ settingsOn invocation.strictly machine = .error (.invalid more))
    ∨ ∃ fault, settingsOn invocation machine = .error (.notText fault)
      ∧ settingsOn invocation.strictly machine = .error (.notText fault) := by
  unfold settingsOn Settings.load
  -- environment and settings file are the same, and stand below what the caller chooses
  cases Settings.tableOf machine.environment (machine.readFile settingsPath).toOption with
  | error fault => exact .inr (.inr (.inr ⟨fault, rfl, rfl⟩))
  | ok table =>
    -- the choice is about strictness and leaves the other choices alone
    have hother : ∀ s, s ≠ .strictDer → Source.ofChoices invocation.strictly.choices s
        = Source.ofChoices invocation.choices s := by
      intro s hs
      rw [Invocation.ofChoices_choices, Invocation.ofChoices_choices]
      cases s with
      | strictDer => exact absurd rfl hs
      | logLevel => rfl
      | outputFormat => rfl
    have hstrict : Source.ofChoices invocation.strictly.choices .strictDer = some (.bool true) :=
      Invocation.ofChoices_choices invocation.strictly .strictDer
    have hcases := Settings.ofSources_override
      [.ofEnvironment machine.environment, .ofTable table] hother hstrict
    rcases hcases with ⟨settings, hwithout, hwith⟩ | ⟨p, settings, hwithout, hp, hwith⟩
      | ⟨problems, more, hwithout, hp, hwith⟩
    · refine .inl ⟨settings, ?_, ?_⟩
      · simp only [hwithout]
      · simp only [hwith]
    · refine .inr (.inl ⟨p, settings, ?_, hp, ?_⟩)
      · simp only [hwithout]
      · simp only [hwith]
    · refine .inr (.inr (.inl ⟨problems, more, ?_, hp, ?_⟩))
      · simp only [hwithout]
      · simp only [hwith]

/-- A command line that cannot be read ends every run in the same way. -/
theorem performOn_of_error {stop : Stop Switch} (hline : Invocation.read line = .error stop)
    (hchoosing : Invocation.read choosing = .error stop) (machine : Machine) :
    performOn choosing machine = performOn line machine
      ∧ ∀ problems, (performOn line machine).1 ≠ .unsettled problems := by
  -- such a run ends before anybody looks for settings
  unfold performOn perform
  rw [hline, hchoosing]
  refine ⟨rfl, ?_⟩
  intro problems h
  cases stop with
  | final option => cases h
  | misuse program misuse => cases h

/-- **Runs with and without the choice** end alike, unless the value for strictness is the only
problem of the one without. -/
theorem endsAlike_iff
    (hchoosing : Invocation.read choosing = Invocation.strictly <$> Invocation.read line)
    (hlooks : ∀ i, Invocation.read line = .ok i → i.command.LooksAtCertificates)
    (machine : Machine) :
    EndsAlike (performOn choosing machine) (performOn line machine)
      ↔ ¬ ∃ p, (performOn line machine).1 = .unsettled [p] ∧ p.setting = .strictDer := by
  cases hline : Invocation.read line with
  | error stop =>
    rw [hline] at hchoosing
    obtain ⟨hsame, hsettled⟩ := performOn_of_error hline hchoosing machine
    rw [hsame]
    constructor
    · rintro - ⟨p, hp, -⟩
      exact hsettled [p] hp
    · intro
      exact .refl _
  | ok invocation =>
    rw [hline] at hchoosing
    rw [performOn_eq hline, performOn_eq hchoosing]
    rcases settingsOn_strictly invocation machine with ⟨settings, hwithout, hwith⟩
      | ⟨p, settings, hwithout, hp, hwith⟩ | ⟨problems, more, hwithout, ⟨q, hmem, hq⟩, hwith⟩
      | ⟨fault, hwithout, hwith⟩
    · -- both runs carry the command out, under settings that differ in strictness
      rw [hwithout, hwith]
      have hends := carry_endsAlike (hlooks invocation hline) settings true settings.strictDer
        machine
      refine iff_of_true hends ?_
      rintro ⟨p, hp, -⟩
      exact carry_ne_unsettled invocation.command settings machine [p] hp
    · -- only the run that chooses strictness carries it out
      rw [hwithout, hwith]
      refine iff_of_false ?_ ?_
      · intro hends
        exact code_carry_ne invocation.command settings machine hends.code
      · intro hno
        exact hno ⟨p, rfl, hp⟩
    · -- neither does, and something else than strictness is wrong
      rw [hwithout, hwith]
      refine iff_of_true ⟨rfl, rfl, rfl, rfl⟩ ?_
      rintro ⟨p, hunsettled, hp⟩
      cases hunsettled
      rw [List.mem_singleton.mp hmem] at hq
      exact hq hp
    · -- neither does, because the settings file is no text
      rw [hwithout, hwith]
      refine iff_of_true (.refl _) ?_
      rintro ⟨p, hp, -⟩
      cases hp

end Program

open CommandLine Program

/-! ### Machines without files -/

/-- A machine without files. -/
def bareMachine (environment : List (String × String)) : Machine :=
  .fresh ⟨[]⟩ environment

/-- A machine without files has none to read. -/
theorem read_bare (path : Path) : ∃ refusal, (FileTree.mk []).read path = .error refusal := by
  unfold FileTree.read
  cases (FileTree.mk []).locate path with
  | error refusal => exact ⟨refusal, rfl⟩
  | ok place =>
    -- the only places that hold something are the ones without names, which are directories
    obtain ⟨base, names⟩ := place
    cases names with
    | nil => exact ⟨.isDirectory, rfl⟩
    | cons name rest => exact ⟨.noEntry, rfl⟩

/-- Its settings come from the choices and the environment. -/
theorem settingsOn_bare (invocation : Invocation) (environment : List (String × String)) :
    settingsOn invocation (bareMachine environment)
      = match Settings.ofSources
          [.ofChoices invocation.choices, .ofEnvironment environment, .ofTable []] with
        | .ok settings => .ok settings
        | .error problems => .error (.invalid problems) := by
  obtain ⟨refusal, hread⟩ := read_bare settingsPath
  have hunread : (bareMachine environment).tree.read settingsPath = .error refusal := hread
  rw [settingsOn_of_unread hunread]
  rfl

/-- A report on such a machine fails, since there is no file to report on. -/
theorem code_carry_info_bare (path : Path) (settings : Settings)
    (environment : List (String × String)) :
    (carry (.info path) settings (bareMachine environment)).1.code = some 1 := by
  obtain ⟨refusal, hread⟩ := read_bare path
  have hcontent : Command.contentOf (FileTree.mk []) path
      = .error (Command.unreadable path (refusal.fault path)) := by
    unfold Command.contentOf
    rw [hread]
  -- both answers fail at the first stage, with the file that cannot be read
  have hanswer : Command.answer settings (bareMachine environment).tree (.info path)
      = .ok (.error (Command.unreadable path (refusal.fault path))) := by
    show Except.ok (do
      let format ← Command.formatOf settings.strictDer (FileTree.mk []) path
      let certificate ← Command.certificateOf settings.strictDer (FileTree.mk []) path
      return Command.Delivery.ofLines (Command.report format certificate)) = _
    unfold Command.formatOf
    rw [hcontent]
    rfl
  unfold carry
  rw [hanswer]
  show (Ending.ofFailure (Command.unreadable path (refusal.fault path))).code = _
  rw [Ending.ofFailure_eq (Command.oneLine_unreadable path refusal)]
  rfl

/-- A report on a file, as it is asked for. -/
theorem read_info : Invocation.read ["info", "x"]
    = .ok ⟨none, false, .info (.ofText "x")⟩ := by
  -- what is behind the name of the command is read by a grammar of its own
  let inner : Grammar Switch := ⟨"attest-cert info", [helpRule], ["path"]⟩
  have hscan : inner.scan .empty [⟨"x", .operand⟩] = .ok ⟨[], [some "x"], []⟩ := by
    simp [inner, Grammar.scan, Grammar.isOpen, Grammar.Reading.add, Grammar.Reading.empty,
      Grammar.operandOf, separator]
  have hread : inner.read ["x"] = .ok ⟨[], [some "x"], []⟩ := inner.read_of_scan rfl hscan rfl
  exact Invocation.read_of_command rfl rfl rfl hread rfl rfl

/-- A report looks at certificates. -/
theorem looksAtCertificates_info : ∀ i, Invocation.read ["info", "x"] = .ok i →
    i.command.LooksAtCertificates := by
  intro i h
  rw [read_info] at h
  cases h
  intro path heq
  cases heq

/-- Zeros are no beginning of either kind. -/
theorem unlike_zeros : Unlike (List.replicate 27 0) := by
  refine ⟨?_, ?_, ?_⟩ <;> decide

/-! ### Strictness -/

/-- **Strictness never decides acceptance.** The strict and the lenient reader accept the same
octets as the same certificates, and refuse the others for the same reasons, but for those
that are unlike. So strictness that is chosen on a command line, for which it is enough to put
the option in front, leaves the end of a run as it was, with one exception: without the choice
the value for strictness that the machine gives is looked at, and it may be the only one that
is wrong. -/
theorem strictness_never_decides :
    (∀ raw : Bytes,
      (∀ c, Certificate.fromBytes true raw = .ok c ↔ Certificate.fromBytes false raw = .ok c)
      ∧ (¬ Unlike raw → Certificate.fromBytes true raw = Certificate.fromBytes false raw)
      ∧ (Unlike raw → ∃ first reason, raw.head? = some first
        ∧ Certificate.fromBytes true raw = .error (unrecognized first)
        ∧ (unrecognized first).code = .unrecognizedEncoding
        ∧ Certificate.fromDer raw = .error reason ∧ reason.code = .decodeError
        ∧ Certificate.fromBytes false raw = .error reason))
    ∧ (∀ line, Invocation.read ("--strict-der" :: line)
        = Invocation.strictly <$> Invocation.read line)
    ∧ ∀ line choosing,
      Invocation.read choosing = Invocation.strictly <$> Invocation.read line →
      (∀ i, Invocation.read line = .ok i → i.command.LooksAtCertificates) →
      ∀ machine, EndsAlike (performOn choosing machine) (performOn line machine)
        ↔ ¬ ∃ p, (performOn line machine).1 = .unsettled [p] ∧ p.setting = .strictDer := by
  refine ⟨?_, Invocation.read_strictly, ?_⟩
  · intro raw
    refine ⟨Certificate.fromBytes_ok_iff true false,
      fun h => Certificate.fromBytes_of_not_unlike h true, ?_⟩
    intro h
    obtain ⟨first, reason, hhead, hstrict, hder, hcode, hlenient⟩ :=
      Certificate.fromBytes_of_unlike h
    exact ⟨first, reason, hhead, hstrict, rfl, hder, hcode, hlenient⟩
  · intro line choosing hchoosing hlooks machine
    exact endsAlike_iff hchoosing hlooks machine

/-- Nothing is wrong with the environment. -/
theorem strictness_never_decides_bare :
    Certificate.fromBytes true [] = Certificate.fromBytes false []
    ∧ (∃ reason, Certificate.fromBytes true (List.replicate 27 0) = .error (unrecognized 0)
      ∧ Certificate.fromBytes false (List.replicate 27 0) = .error reason
      ∧ reason.code = .decodeError)
    ∧ EndsAlike (performOn ["--strict-der", "info", "x"] (bareMachine []))
        (performOn ["info", "x"] (bareMachine [])) := by
  obtain ⟨hraw, hfront, hruns⟩ := strictness_never_decides
  refine ⟨(hraw []).2.1 ?_, ?_, ?_⟩
  · intro h
    exact absurd h.1 (by decide)
  · obtain ⟨first, reason, hhead, hstrict, -, -, hcode, hlenient⟩ := (hraw _).2.2 unlike_zeros
    cases hhead
    exact ⟨reason, hstrict, hlenient, hcode⟩
  · -- nothing is wrong with the settings, for there are none but the usual ones
    refine (hruns _ _ (hfront ["info", "x"]) looksAtCertificates_info (bareMachine [])).mpr ?_
    rintro ⟨p, hp, -⟩
    have hsettings : settingsOn ⟨none, false, .info (.ofText "x")⟩ (bareMachine [])
        = .ok ⟨"INFO", false, .pem⟩ := by
      rw [settingsOn_bare]
      rfl
    rw [performOn_eq read_info, hsettings] at hp
    exact carry_ne_unsettled _ _ _ _ hp

/-- The environment says something for strictness that is no truth value. With the option in
front nobody looks at it. -/
theorem strictness_decides_settings :
    (performOn ["info", "x"] (bareMachine [("ATTEST_CERT_STRICT_DER", "maybe")])).1.code = some 2
    ∧ (performOn ["--strict-der", "info", "x"]
        (bareMachine [("ATTEST_CERT_STRICT_DER", "maybe")])).1.code = some 1 := by
  have hstrict : Invocation.read ["--strict-der", "info", "x"]
      = .ok ⟨none, true, .info (.ofText "x")⟩ := by
    rw [Invocation.read_strictly, read_info]
    rfl
  rw [performOn_eq read_info, performOn_eq hstrict, settingsOn_bare, settingsOn_bare]
  refine ⟨rfl, ?_⟩
  exact code_carry_info_bare (.ofText "x") ⟨"INFO", true, .pem⟩ _

end CertChain
