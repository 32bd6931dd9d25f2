import CertChain.Program

/-!
# The executable

The program on the machine it is started on. Log and diagnostics go to the standard error
stream, everything else to the standard output.
-/

namespace CertChain
namespace Executable

/-- The number of an error, as the system counts them. -/
def numberOf : IO.Error → UInt32
  | .alreadyExists _ code _ | .noFileOrDirectory _ code _ | .permissionDenied _ code _
  | .inappropriateType _ code _ | .resourceExhausted _ code _ | .invalidArgument _ code _
  | .interrupted _ code _ => code
  | .otherError code _ | .resourceBusy code _ | .resourceVanished code _
  | .unsupportedOperation code _ | .hardwareFault code _ | .unsatisfiedConstraints code _
  | .illegalOperation code _ | .protocolError code _ | .timeExpired code _
  | .noSuchThing _ code _ => code
  | .userError _ | .unexpectedEof => 0

/-- A refusal by the system, as the fault that names the path if there is one. -/
def faultOf (path : Option Path) (e : IO.Error) : Fault :=
  let number : Int := (numberOf e).toNat
  .alone ⟨.system ((Fault.Kind.ofErrorNumber? number).getD "OSError"),
    [.int number, .text (toString e)] ++ path.toList.map fun path => .text path.text, []⟩

/-- Does something that the system may refuse. -/
def attempt {α : Type} (path : Option Path) (action : IO α) : IO (Except Fault α) :=
  tryCatch (Except.ok <$> action) fun e => pure (.error (faultOf path e))

/-- The environment. -/
def environment : IO (List (String × String)) := do
  let octets ← tryCatch (IO.FS.readBinFile "/proc/self/environ") fun _ => pure .empty
  let text := (Utf8.decode? octets.toList).getD ""
  return (text.splitOn "\x00").filterMap fun entry =>
    match entry.splitOn "=" with
    | name :: value => if value.isEmpty then none else some (name, "=".intercalate value)
    | [] => none

/-- Why something has failed, as an entry says it. -/
def reasonOf (failure : Failure) : String :=
  failure.detail.toOption.getD failure.message

/-- An entry of the log in one line. -/
def lineOf (event : Event) : String :=
  let details : List String :=
    match event with
    | .starting command strict => [command, if strict then "strict" else "lenient"]
    | .loaded subject issuer fingerprint => [subject, issuer, fingerprint]
    | .decodeFailed failure size => [failure.code.name, reasonOf failure, toString size]
    | .verified signer signee => [signer, signee]
    | .verifyFailed failure signer signee =>
      [failure.code.name, reasonOf failure, signer, signee]
  " ".intercalate ([event.level.name, event.name] ++ details.map quoted)

end Executable

open Executable in
instance : MonadHost IO where
  record event := do (← IO.getStderr).putStrLn (lineOf event)
  readFile path := attempt (some path) do return (← IO.FS.readBinFile path.text).toList
  writeFile path content := attempt (some path) (IO.FS.writeBinFile path.text ⟨content.toArray⟩)
  print octets := attempt none do (← IO.getStdout).write ⟨octets.toArray⟩
  environment := Executable.environment

end CertChain

open CertChain in
/-- The program. -/
def main (line : List String) : IO UInt32 := do
  let ending ← Program.perform line
  match ending.diagnostic with
  | some text => (← IO.getStderr).putStrLn text
  | none => pure ()
  match ending with
  | .broken fault => (← IO.getStderr).putStr (fault.trace.toOption.getD fault.head.kind.traceName)
  | _ => pure ()
  return UInt32.ofNat (ending.code.getD 1)
