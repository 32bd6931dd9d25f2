import CertChain.Program
import CertChain.Proofs.Diagnostic
import CertChain.Proofs.Settings

/-!
# A run of the program

A command line that is read asks for a command under certain settings. `Program.performOn_eq`
says what a run on a machine is then: the settings are looked for on the machine, and if they
are found the command is carried out under them (`Program.carry`). Without settings the
machine stays as it was. Any other command line is all there is to the run (`Program.isEarly_iff`).

A `Run` is the program from its beginning, on a machine on which nothing has happened yet. When
it gets as far as a command (`Run.Reaches`), it is that command carried out.
-/

namespace CertChain
namespace Program

open CommandLine

/-- **A run of the program** on a machine. -/
def performOn (line : List String) (machine : Machine) : Ending × Machine :=
  (perform line : OnMachine Ending).run machine

/-- The settings that an invocation finds on a machine. -/
def settingsOn (invocation : Invocation) (machine : Machine) : Except SettingsError Settings :=
  Settings.load invocation.choices machine.environment (machine.readFile settingsPath).toOption

/-- A settings file that cannot be read is as good as none. -/
theorem settingsOn_of_unread {machine : Machine} {refusal : FileRefusal}
    (h : machine.tree.read settingsPath = .error refusal) (invocation : Invocation) :
    settingsOn invocation machine
      = Settings.load invocation.choices machine.environment none := by
  -- why it cannot be read is not kept
  unfold settingsOn Machine.readFile
  rw [h]
  rfl

/-- How a program ends whose command has come to this. -/
def endingOf : Except Fault (Outcome Unit) → Ending
  | .error fault => .broken fault
  | .ok (.error failure) => .ofFailure failure
  | .ok (.ok ()) => .done

/-- A failure that is told in one line has a detail, so it is told. -/
theorem Ending.ofFailure_eq {f : Failure} (h : f.InOneLine) : ofFailure f = .failed f := by
  obtain ⟨detail, hdetail, -⟩ := h
  rw [ofFailure, hdetail]

/-- A failure that is told is the one that a command has ended with. -/
theorem Ending.eq_of_ofFailure {f g : Failure} (h : ofFailure g = .failed f) : g = f := by
  unfold ofFailure at h
  split at h
  · cases h
    rfl
  · cases h

/-- A failure has its own exit code or none, told or not. -/
theorem Ending.code_ofFailure_ne (f : Failure) {n : Nat} (hn : 1 ≠ n) :
    (ofFailure f).code ≠ some n := by
  rw [ofFailure]
  cases f.detail with
  | ok detail => exact fun h => hn (Option.some.inj h)
  | error fault => exact fun h => (nomatch h)

/-- **A command carried out under settings**: its beginning is entered, then what it enters
itself, and its answer is given. -/
def carry (command : Command) (settings : Settings) (machine : Machine) : Ending × Machine :=
  let entered := machine.recordAll settings.threshold
    (.starting command.name settings.strictDer :: command.entries settings machine.tree)
  let given := Command.give (command.answer settings machine.tree) entered
  (endingOf given.1, given.2)

/-- A command that is carried out under a log with a threshold. -/
theorem runCommand_eq (command : Command) (settings : Settings) (machine : Machine) :
    (ReaderT.run (runCommand command settings : Filtered OnMachine Ending)
      settings.threshold).run machine = carry command settings machine := by
  -- the beginning is entered before the command runs, so it is one more entry in front
  have hrun := command.runOn_eq settings settings.threshold
    (machine.recordAll settings.threshold [.starting command.name settings.strictDer])
  rw [Machine.tree_recordAll, Machine.recordAll_recordAll] at hrun
  unfold Command.runOn at hrun
  unfold runCommand carry
  rw [ReaderT.run_bind, Machine.run_bind, Machine.run_record, ReaderT.run_bind, Machine.run_bind,
    hrun, List.singleton_append]
  simp only
  -- the end of a run depends on what came of the command, and on nothing else
  generalize Command.give _ _ = given
  rcases given with ⟨fault | failure | ⟨⟩, after⟩
  · rfl
  · rfl
  · rfl

/-- A run is its settings and then its command. -/
theorem performOn_eq {line : List String} {invocation : Invocation}
    (h : Invocation.read line = .ok invocation) (machine : Machine) :
    performOn line machine
      = match settingsOn invocation machine with
        | .error (.notText fault) => (.broken (.ofText .undecodable fault.text), machine)
        | .error (.invalid problems) => (.unsettled problems, machine)
        | .ok settings => carry invocation.command settings machine := by
  have hfind : (findSettings invocation : OnMachine _).run machine
      = (settingsOn invocation machine, machine) := rfl
  unfold performOn perform
  rw [h]
  simp only
  rw [Machine.run_bind, hfind]
  cases hsettings : settingsOn invocation machine with
  | error e =>
    cases e with
    | notText fault => rfl
    | invalid problems => rfl
  | ok settings =>
    -- the level has been accepted, so looking up its threshold is no fault
    simp only [Settings.thresholdOf_of_load hsettings]
    exact runCommand_eq invocation.command settings machine

/-- A command that is carried out does not end early. -/
theorem isEarly_endingOf (given : Except Fault (Outcome Unit)) :
    (endingOf given).isEarly = false := by
  rcases given with fault | failure | ⟨⟩
  · rfl
  · show (Ending.ofFailure failure).isEarly = false
    unfold Ending.ofFailure
    cases failure.detail <;> rfl
  · rfl

/-- **A run ends early** if it is over when the command line has been read, and only then: if the
line is misused, or if it asks for a text. -/
theorem isEarly_iff {line : List String} {machine : Machine} :
    (performOn line machine).1.isEarly = true ↔ ∃ stop, Invocation.read line = .error stop := by
  cases hline : Invocation.read line with
  | error stop =>
    refine ⟨fun _ => ⟨stop, rfl⟩, fun _ => ?_⟩
    unfold performOn perform
    rw [hline]
    cases stop with
    | misuse program misuse => rfl
    | final option => rfl
  | ok invocation =>
    refine ⟨fun hearly => ?_, fun ⟨stop, h⟩ => (nomatch h)⟩
    have hlate : (performOn line machine).1.isEarly = false := by
      rw [performOn_eq hline]
      cases settingsOn invocation machine with
      | error reason => cases reason <;> rfl
      | ok settings => exact isEarly_endingOf _
    rw [hlate] at hearly
    cases hearly

/-! ### Runs from the beginning -/

/-- **A run**: a command line, and the files and the environment that the program finds. -/
structure Run where
  line : List String
  tree : FileTree
  environment : List (String × String)

namespace Run

/-- The machine on which nothing has happened yet. -/
def before (run : Run) : Machine :=
  .fresh run.tree run.environment

/-- How the run ends. -/
def ending (run : Run) : Ending :=
  (performOn run.line run.before).1

/-- What has become of the machine. -/
def after (run : Run) : Machine :=
  (performOn run.line run.before).2

/-- **A run gets as far as a command** that its command line asks for, if there are settings. -/
def Reaches (run : Run) (command : Command) (settings : Settings) : Prop :=
  ∃ invocation, Invocation.read run.line = .ok invocation ∧ invocation.command = command
    ∧ settingsOn invocation run.before = .ok settings

/-- From there on it is the command that is carried out. -/
theorem Reaches.performOn_eq {run : Run} {command : Command} {settings : Settings}
    (h : run.Reaches command settings) :
    (run.ending, run.after) = carry command settings run.before := by
  obtain ⟨invocation, hline, rfl, hsettings⟩ := h
  have hperform := Program.performOn_eq hline run.before
  rw [hsettings] at hperform
  exact hperform

end Run

end Program
end CertChain
