import CertChain.Proofs.Atomicity
import CertChain.Proofs.Settings.Precedence

/-!
# Runs without settings

There are two ways to be without settings. The settings file may be no text, or a value that counts
for a setting is none for it (`Program.settingsOn_error_iff`). In the second case the program says
so and leaves with the code for misuse, before it has looked at any other file. What it says is
complete: every setting with a bad value is named once, in the order of the settings, together with
the value that counts (`Settings.Told`).

In the first case it should do the same, and does not. The problems with values are collected and
handed on, but a settings file that is no text is a fault, and nobody is there to catch it
(`Program.not_answered_illegible`). So a run without settings is answered for exactly when its
settings file is a text or is not there at all (`Program.answered_iff`).
-/

namespace CertChain

namespace Settings

variable {sources : List Source} {s : Setting}

/-! ### Problems with values -/

/-- **A bad value**: it counts for a setting, and it is none for it. -/
def Spoiled (sources : List Source) (s : Setting) (value : Datum) : Prop :=
  given sources s = some value ∧ ¬ Suits s value

/-- **Problems are told in full**: in the order of the settings and each setting once, with the
value that counts, and none is left out. -/
structure Told (sources : List Source) (problems : List Problem) : Prop where
  inOrder : (problems.map Problem.setting).Sublist Setting.all
  honest : ∀ p ∈ problems, Spoiled sources p.setting p.value
  complete : ∀ s value, Spoiled sources s value → s ∈ problems.map Problem.setting

section One

variable {α : Type} {usual : α} {read : Datum → Except Unsuited α}

/-- A problem with one setting is a bad value for it. -/
theorem spoiled_of_mem (hsuits : ∀ value, Suits s value ↔ ∃ a, read value = .ok a) {p : Problem}
    (h : p ∈ problemOf (one sources s usual read)) : Spoiled sources p.setting p.value := by
  -- only a value that counts and is refused makes a problem
  unfold one at h
  cases hgiven : given sources s with
  | none =>
    simp only [hgiven] at h
    cases h
  | some value =>
    simp only [hgiven] at h
    cases hread : read value with
    | ok a =>
      simp only [hread] at h
      cases h
    | error reason =>
      simp only [hread] at h
      obtain rfl := List.mem_singleton.mp h
      refine ⟨hgiven, fun hvalue => ?_⟩
      obtain ⟨a, ha⟩ := (hsuits value).mp hvalue
      rw [hread] at ha
      cases ha

/-- A setting has one problem at most. -/
theorem setting_problemOf_one :
    ((problemOf (one sources s usual read)).map Problem.setting).Sublist [s] := by
  cases hone : one sources s usual read with
  | ok a => exact List.nil_sublist [s]
  | error p =>
    show [p.setting].Sublist [s]
    rw [setting_of_one hone]

/-- A bad value is a problem. -/
theorem mem_setting_problemOf {value : Datum} (hgiven : given sources s = some value)
    (hread : ¬ ∃ a, read value = .ok a) :
    s ∈ (problemOf (one sources s usual read)).map Problem.setting := by
  have herror : ∃ p, one sources s usual read = .error p :=
    one_error_iff.mpr ⟨value, hgiven, hread⟩
  obtain ⟨p, hp⟩ := herror
  rw [hp]
  exact List.mem_singleton.mpr (setting_of_one hp).symm

end One

/-- What is reported when there are no settings is what is wrong with each of them. -/
theorem problems_of_ofSources {problems : List Problem} (h : ofSources sources = .error problems) :
    problems = problemOf (one sources .logLevel "INFO" readLevel)
      ++ problemOf (one sources .strictDer false readTruth)
      ++ problemOf (one sources .outputFormat .pem readFormat) := by
  -- each of the three settings is there or has a problem, and with all of them there would be
  -- settings
  unfold ofSources at h
  cases hlevel : one sources .logLevel "INFO" readLevel <;>
    cases hstrict : one sources .strictDer false readTruth <;>
      cases hformat : one sources .outputFormat .pem readFormat <;>
        simp only [hlevel, hstrict, hformat, Except.error.injEq, reduceCtorEq] at h <;>
          exact h.symm

/-- **All problems with values are told.** -/
theorem told_of_ofSources {problems : List Problem} (h : ofSources sources = .error problems) :
    Told sources problems := by
  rw [problems_of_ofSources h]
  refine ⟨?_, ?_, ?_⟩
  · rw [List.map_append, List.map_append]
    exact (setting_problemOf_one.append setting_problemOf_one).append setting_problemOf_one
  · intro p hp
    -- each setting has its own way of reading, and that is what suits it
    rcases List.mem_append.mp hp with hp | hp
    · rcases List.mem_append.mp hp with hp | hp
      · exact spoiled_of_mem (fun _ => Iff.rfl) hp
      · exact spoiled_of_mem (fun _ => Iff.rfl) hp
    · exact spoiled_of_mem (fun _ => Iff.rfl) hp
  · rintro s value ⟨hgiven, hread⟩
    simp only [List.map_append, List.mem_append]
    cases s with
    | logLevel => exact .inl (.inl (mem_setting_problemOf hgiven hread))
    | strictDer => exact .inl (.inr (mem_setting_problemOf hgiven hread))
    | outputFormat => exact .inr (mem_setting_problemOf hgiven hread)

/-- There are no settings if and only if some value is bad. -/
theorem ofSources_error_iff_spoiled :
    (∃ problems, ofSources sources = .error problems) ↔ ∃ s value, Spoiled sources s value := by
  -- one equivalence for each setting, and a bad value for any of them is enough
  rw [ofSources_error_iff, one_error_iff, one_error_iff, one_error_iff]
  constructor
  · rintro (⟨value, h⟩ | ⟨value, h⟩ | ⟨value, h⟩)
    · exact ⟨.logLevel, value, h⟩
    · exact ⟨.strictDer, value, h⟩
    · exact ⟨.outputFormat, value, h⟩
  · rintro ⟨s, value, h⟩
    cases s with
    | logLevel => exact .inl ⟨value, h⟩
    | strictDer => exact .inr (.inl ⟨value, h⟩)
    | outputFormat => exact .inr (.inr ⟨value, h⟩)

end Settings

namespace Program

open CommandLine Settings

variable {line : List String} {invocation : Invocation} {machine : Machine}

/-! ### Without settings -/

/-- **The settings file is illegible**: it can be read, and what it holds is no text. -/
def Illegible (machine : Machine) : Prop :=
  ∃ content fault, machine.tree.read settingsPath = .ok content
    ∧ Utf8.decode content = .error fault

/-- **The places where a run looks for settings**, if its settings file is a text. -/
def LooksIn (invocation : Invocation) (machine : Machine) (sources : List Source) : Prop :=
  ∃ table, tableOf machine.environment (machine.readFile settingsPath).toOption = .ok table
    ∧ sources = sourcesOf invocation.choices machine.environment table

/-- The first way to be without settings is an illegible file. -/
theorem settingsOn_eq_notText_iff :
    (∃ fault, settingsOn invocation machine = .error (.notText fault)) ↔ Illegible machine := by
  simp only [settingsOn_notText_iff, Illegible]
  exact exists_comm

/-- Settings that are found or refused are those of the places. -/
theorem settingsOn_invalid_iff {problems : List Problem} :
    settingsOn invocation machine = .error (.invalid problems)
      ↔ ∃ sources, LooksIn invocation machine sources ∧ ofSources sources = .error problems := by
  rw [settingsOn, load_invalid_iff]
  constructor
  · rintro ⟨table, htable, hproblems⟩
    exact ⟨_, ⟨table, htable, rfl⟩, hproblems⟩
  · rintro ⟨_, ⟨table, htable, rfl⟩, hproblems⟩
    exact ⟨table, htable, hproblems⟩

/-- **There are two ways to be without settings.** -/
theorem settingsOn_error_iff : (∃ reason, settingsOn invocation machine = .error reason)
    ↔ Illegible machine
      ∨ ∃ sources s value, LooksIn invocation machine sources ∧ Spoiled sources s value := by
  rw [← @settingsOn_eq_notText_iff invocation machine]
  constructor
  · rintro ⟨reason, h⟩
    cases reason with
    | notText fault => exact .inl ⟨fault, h⟩
    | invalid problems =>
      obtain ⟨sources, hsources, hproblems⟩ := settingsOn_invalid_iff.mp h
      obtain ⟨s, value, hspoiled⟩ := ofSources_error_iff_spoiled.mp ⟨problems, hproblems⟩
      exact .inr ⟨sources, s, value, hsources, hspoiled⟩
  · rintro (⟨fault, h⟩ | ⟨sources, s, value, hsources, hspoiled⟩)
    · exact ⟨.notText fault, h⟩
    · obtain ⟨problems, hproblems⟩ := ofSources_error_iff_spoiled.mpr ⟨s, value, hspoiled⟩
      exact ⟨.invalid problems, settingsOn_invalid_iff.mpr ⟨sources, hsources, hproblems⟩⟩

/-! ### Answers -/

/-- **A run answers for missing settings**: it says that the configuration is wrong, leaves with
the code for misuse, and has neither changed anything nor read anything but the settings file. -/
structure Answers (line : List String) (machine : Machine) (report : String) : Prop where
  code : (performOn line machine).1.code = some 2
  diagnostic : (performOn line machine).1.diagnostic
    = some ("FATAL: Configuration error — " ++ report)
  untouched : (performOn line machine).2 = machine
  read : readOn line machine = [settingsPath]

/-- Missing settings are answered for, whatever the reason is. -/
def Answered (line : List String) (invocation : Invocation) (machine : Machine) : Prop :=
  ∀ reason, settingsOn invocation machine = .error reason → ∃ report, Answers line machine report

/-- Problems with values are reported. -/
theorem answers_of_invalid {problems : List Problem} (hline : Invocation.read line = .ok invocation)
    (h : settingsOn invocation machine = .error (.invalid problems)) :
    Answers line machine (Problem.report problems) := by
  have hperform := performOn_eq hline machine
  rw [h] at hperform
  refine ⟨?_, ?_, ?_, readOn_of_unsettled hline h⟩
  · rw [hperform]
    rfl
  · rw [hperform]
    rfl
  · rw [hperform]

/-- An illegible settings file breaks the run off. -/
theorem performOn_of_notText {fault : Utf8.Fault} (hline : Invocation.read line = .ok invocation)
    (h : settingsOn invocation machine = .error (.notText fault)) :
    performOn line machine = (.broken (.ofText .undecodable fault.text), machine) := by
  rw [performOn_eq hline, h]

/-- Missing settings are answered for unless the settings file is illegible. -/
theorem answered_iff_not_illegible (hline : Invocation.read line = .ok invocation) :
    Answered line invocation machine ↔ ¬ Illegible machine := by
  constructor
  · intro hanswered hillegible
    obtain ⟨fault, h⟩ := settingsOn_eq_notText_iff.mpr hillegible
    obtain ⟨report, hanswers⟩ := hanswered _ h
    -- a run that is broken off has no code
    have hcode := hanswers.code
    rw [performOn_of_notText hline h] at hcode
    cases hcode
  · intro hlegible reason h
    cases reason with
    | notText fault => exact absurd (settingsOn_eq_notText_iff.mp ⟨fault, h⟩) hlegible
    | invalid problems => exact ⟨_, answers_of_invalid hline h⟩

/-- **No fault comes through** unless the run is broken off. -/
theorem code_performOn_iff (hline : Invocation.read line = .ok invocation) :
    (∃ code, (performOn line machine).1.code = some code) ↔ ¬ BrokenOff invocation machine := by
  constructor
  · rintro ⟨code, hcode⟩ hbroken
    rcases hbroken with hillegible | ⟨settings, signer, hsettings, hcommand⟩
    · obtain ⟨fault, h⟩ := settingsOn_eq_notText_iff.mpr hillegible
      rw [performOn_of_notText hline h] at hcode
      cases hcode
    · rw [performOn_eq hline, hsettings, hcommand] at hcode
      cases hcode
  · intro hwhole
    -- a run that is not broken off ends well, and every good ending has a code
    have hends := endsWell_of_not_brokenOff hline hwhole
    cases hsettings : settingsOn invocation machine with
    | error reason => exact ⟨2, (hends.unsettled reason hsettings).1⟩
    | ok settings =>
      rcases (hends.settled settings hsettings).code with hcode | hcode
      · exact ⟨0, hcode⟩
      · exact ⟨1, hcode⟩

/-! ### Missing settings -/

/-- **Missing settings are answered for exactly when the settings file is legible.** This is so for
every command line that can be read and on every machine. A run without settings has an illegible
settings file or a bad value. With bad values it reports all of them and touches nothing; with an
illegible settings file a fault comes through. The only other fault that comes through is that of
a check without a second path, and then there are settings. -/
theorem answered_iff (hline : Invocation.read line = .ok invocation) (machine : Machine) :
    (Answered line invocation machine ↔ ¬ Illegible machine)
    ∧ ((∃ code, (performOn line machine).1.code = some code)
      ↔ ¬ Illegible machine
        ∧ ¬ ∃ settings signer, settingsOn invocation machine = .ok settings
          ∧ invocation.command = .verify signer none)
    ∧ ((∃ reason, settingsOn invocation machine = .error reason)
      ↔ Illegible machine
        ∨ ∃ sources s value, LooksIn invocation machine sources ∧ Spoiled sources s value)
    ∧ (∀ problems, settingsOn invocation machine = .error (.invalid problems) →
      Answers line machine (Problem.report problems)
        ∧ ∃ sources, LooksIn invocation machine sources ∧ Told sources problems)
    ∧ (Illegible machine → ∃ fault : Utf8.Fault,
      performOn line machine = (.broken (.ofText .undecodable fault.text), machine)
        ∧ readOn line machine = [settingsPath]) := by
  refine ⟨answered_iff_not_illegible hline, ?_, settingsOn_error_iff, ?_, ?_⟩
  · rw [code_performOn_iff hline, ← not_or]
    rfl
  · intro problems h
    obtain ⟨sources, hsources, hproblems⟩ := settingsOn_invalid_iff.mp h
    exact ⟨answers_of_invalid hline h, sources, hsources, told_of_ofSources hproblems⟩
  · intro hillegible
    obtain ⟨fault, h⟩ := settingsOn_eq_notText_iff.mpr hillegible
    exact ⟨fault, performOn_of_notText hline h, readOn_of_unsettled hline h⟩

/-! ### A level that is none, and a settings file that is no text -/

/-- A level that there is not is a problem that the caller is told of. -/
theorem answered_loud :
    let machine := bareMachine [("ATTEST_CERT_LOG_LEVEL", "loud")]
    Invocation.read ["info", "x"] = .ok ⟨none, false, .info (.ofText "x")⟩
      ∧ Answered ["info", "x"] ⟨none, false, .info (.ofText "x")⟩ machine
      ∧ Answers ["info", "x"] machine
        (Problem.report [⟨.logLevel, .unknownLevel "loud", .text "loud"⟩]) := by
  intro machine
  have hsettings : settingsOn ⟨none, false, .info (.ofText "x")⟩ machine
      = .error (.invalid [⟨.logLevel, .unknownLevel "loud", .text "loud"⟩]) := by
    rw [settingsOn_bare]
    rfl
  -- there is no settings file, and so none that could be illegible
  have hlegible : ¬ Illegible machine := by
    rintro ⟨content, fault, hread, -⟩
    obtain ⟨refusal, hnone⟩ := read_bare settingsPath
    rw [show machine.tree.read settingsPath = .error refusal from hnone] at hread
    cases hread
  obtain ⟨hanswered, -, -, htold, -⟩ := answered_iff read_info machine
  exact ⟨read_info, hanswered.mpr hlegible, (htold _ hsettings).1⟩

/-- A machine whose settings file is one octet, with which no text begins. -/
def illegibleMachine : Machine :=
  .fresh ⟨[(⟨.above 0, [".env"]⟩, .file [0xFF])]⟩ []

/-- **An illegible settings file is not answered for.** -/
theorem not_answered_illegible :
    Invocation.read ["info", "x"] = .ok ⟨none, false, .info (.ofText "x")⟩
      ∧ (∃ reason, settingsOn ⟨none, false, .info (.ofText "x")⟩ illegibleMachine = .error reason)
      ∧ (performOn ["info", "x"] illegibleMachine).1.code = none
      ∧ ¬ Answered ["info", "x"] ⟨none, false, .info (.ofText "x")⟩ illegibleMachine := by
  have hpath : settingsPath = ⟨.here, [".env"]⟩ := by cbv
  have hread : illegibleMachine.tree.read settingsPath = .ok [0xFF] := by
    rw [hpath]
    rfl
  have hillegible : Illegible illegibleMachine := ⟨_, _, hread, rfl⟩
  obtain ⟨fault, hsettings⟩ := settingsOn_eq_notText_iff.mpr hillegible
  refine ⟨read_info, ⟨_, hsettings⟩, ?_, fun hanswered => ?_⟩
  · rw [performOn_of_notText read_info hsettings]
    rfl
  · exact (answered_iff_not_illegible read_info).mp hanswered hillegible

end Program
end CertChain
