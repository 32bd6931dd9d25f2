import CertChain.CommandLine.Invocation

/-!
# The program

`Program.perform` is the whole program on a host: it reads the command line, finds the
settings, and carries the command out. It never does less than the command line asks for
without saying so: each way to end is an `Ending`, which has an exit code, and a diagnostic
unless all is well.

The log is written from the level on that the settings say. Nothing else depends on it.
-/

namespace CertChain
namespace Program

open CommandLine

/-- The version of the program. -/
def version : String := "0.1.0"

/-- The path of the settings file. -/
def settingsPath : Path := .ofText ".env"

/-- How the program can end. -/
inductive Ending where
  /-- The command has been carried out. -/
  | done
  /-- The command has failed. -/
  | failed (failure : Failure)
  /-- There are no settings. -/
  | unsettled (problems : List Problem)
  /-- The command line cannot be read. -/
  | misused (program : String) (misuse : Misuse)
  /-- The command line asks for nothing but a text. -/
  | told
  /-- A fault has come through. -/
  | broken (fault : Fault)
  deriving Repr

namespace Ending

/-- The exit code, if the program comes to an orderly end. -/
def code : Ending → Option Nat
  | .done | .told => some 0
  | .failed _ => some 1
  | .unsettled _ | .misused .. => some 2
  | .broken _ => none

/-- Whether the program is left while the command line is being read. -/
def isEarly : Ending → Bool
  | .misused .. | .told => true
  | .done | .failed _ | .unsettled _ | .broken _ => false

/-- What the program says to whoever runs it, besides the log. -/
def diagnostic : Ending → Option String
  | .failed failure =>
    failure.detail.toOption.map fun detail => "error: [" ++ failure.code.name ++ "] " ++ detail
  | .unsettled problems => some ("FATAL: Configuration error — " ++ Problem.report problems)
  | .misused program misuse => some (program ++ ": error: " ++ misuse.text)
  | .done | .told | .broken _ => none

/-- The ending of a command that has failed. The failure is told with its detail, so one
without a detail ends with the fault that there is instead. -/
def ofFailure (failure : Failure) : Ending :=
  match failure.detail with
  | .ok _ => .failed failure
  | .error fault => .broken fault

end Ending

/-- How the program is to be used. -/
def helpText : String :=
  "\n".intercalate
    ["usage: " ++ programName ++ " [-h] [--version] [--log-level LOG_LEVEL] [--strict-der]",
      "                   \x7b" ++ ",".intercalate Command.names ++ "\x7d ...", ""]

/-- The text that an option asks for. -/
def textOf : Switch → String
  | .version => programName ++ " " ++ version ++ "\n"
  | _ => helpText

variable {m : Type → Type} [Monad m] [MonadHost m]

/-- Finds the settings on the host. A settings file that cannot be read is as good as
none. -/
def findSettings (invocation : Invocation) : m (Except SettingsError Settings) := do
  let file ← MonadHost.readFile settingsPath
  return Settings.load invocation.choices (← MonadHost.environment) file.toOption

/-- Carries a command out under settings. -/
def runCommand (command : Command) (settings : Settings) : m Ending := do
  MonadLog.record (.starting command.name settings.strictDer)
  match ← command.run settings with
  | .error fault => return .broken fault
  | .ok (.error failure) => return .ofFailure failure
  | .ok (.ok ()) => return .done

/-- **The program.** A text that the command line asks for is printed if it can be; that it
cannot is not told. -/
def perform (line : List String) : m Ending := do
  match Invocation.read line with
  | .error (.misuse program misuse) => return .misused program misuse
  | .error (.final option) =>
    let _ ← MonadHost.print (Bytes.ofText (textOf option))
    return .told
  | .ok invocation =>
    match ← findSettings invocation with
    | .error (.notText fault) => return .broken (.ofText .undecodable fault.text)
    | .error (.invalid problems) => return .unsettled problems
    | .ok settings =>
      match thresholdOf settings.logLevel with
      | .error fault => return .broken fault
      | .ok threshold => (runCommand invocation.command settings : Filtered m Ending).run threshold

end Program
end CertChain
