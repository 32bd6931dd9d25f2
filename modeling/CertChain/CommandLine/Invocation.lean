import CertChain.Command
import CertChain.CommandLine.Grammar

/-!
# Invocations

An invocation is what a command line asks for: a command, and the settings that the caller
chooses for this one time. The options that choose settings stand in front of the command,
all others behind it (`Invocation.read`).
-/

namespace CertChain
namespace CommandLine

/-- An option of the program or of one of its commands. -/
inductive Switch where
  | help
  | version
  | logLevel
  | strictDer
  | target
  | output
  deriving DecidableEq, Repr, Inhabited

/-- The name of the program. -/
def programName : String := "attest-cert"

/-- The option that asks for help. -/
def helpRule : Rule Switch := ⟨.help, ["-h", "--help"], .final⟩

/-- What may stand in front of a command. -/
def grammar : Grammar Switch where
  program := programName
  rules :=
    [helpRule, ⟨.version, ["--version"], .final⟩, ⟨.logLevel, ["--log-level"], .valued⟩,
      ⟨.strictDer, ["--strict-der"], .plain⟩]
  operands := ["command"]

/-- What may stand behind the name of a command, if it is one. -/
def grammarOf? (command : String) : Option (Grammar Switch) :=
  let program := programName ++ " " ++ command
  match command with
  | "identify" | "info" => some ⟨program, [helpRule], ["path"]⟩
  | "convert" =>
    some ⟨program, [helpRule, ⟨.target, ["--to"], .choice (Format.all.map Format.name)⟩,
      ⟨.output, ["-o", "--output"], .valued⟩], ["path"]⟩
  | "verify" => some ⟨program, [helpRule], ["signer", "signee"]⟩
  | _ => none

/-- **What a command line asks for.** -/
structure Invocation where
  logLevel : Option String
  strictDer : Bool
  command : Command
  deriving DecidableEq, Repr

namespace Invocation

/-- The settings that are chosen. -/
def choices (i : Invocation) : List (String × Datum) :=
  (i.logLevel.map fun level => (Setting.logLevel.name, Datum.text level)).toList
    ++ if i.strictDer then [(Setting.strictDer.name, .bool true)] else []

/-- The command with a name, from what is behind the name. -/
def commandOf? (name : String) (r : Grammar.Reading Switch) : Option Command :=
  match name, r.operands with
  | "identify", [some path] => some (.identify (.ofText path))
  | "info", [some path] => some (.info (.ofText path))
  | "convert", [some path] =>
    some (.convert (.ofText path) ((r.value? .target).bind Format.ofName?)
      ((r.value? .output).map Path.ofText))
  | "verify", [some signer, signee] => some (.verify (.ofText signer) (signee.map Path.ofText))
  | _, _ => none

/-- **Reads a command line.** Words that are left over are found out last. -/
def read (line : List String) : Except (Stop Switch) Invocation := do
  let (r, name, rest) ← grammar.readHead line
  match grammarOf? name with
  | none => throw (grammar.stop (.unknownChoice "command" name Command.names))
  | some inner =>
    let s ← inner.read rest
    if r.left ++ s.left ≠ [] then throw (grammar.stop (.leftOver (r.left ++ s.left)))
    match commandOf? name s with
    | none => throw (inner.stop (.missingOperands inner.operands))
    | some command => return ⟨r.value? .logLevel, r.has .strictDer, command⟩

end Invocation
end CommandLine
end CertChain
