import CertChain.Proofs.Machine

/-!
# What a command comes to

Carrying out a command is one thing after another: files are read, entries are made, and at
the end something is delivered. What comes of it can be said without that order. A command
has an answer (`Command.answer`), which depends on nothing but its settings and on what the
files hold, and it makes certain entries (`Command.entries`). An answer is a delivery or a
failure, and for one misuse it is a fault.

`Command.runOn_eq` is that a machine on which a command is carried out is the machine it was,
with the entries made and the delivery, if there is one, delivered. So nothing is printed or
written by a command that fails, unless what fails is the writing.
-/

namespace CertChain
namespace Command

/-! ### Answers and entries -/

section Answer

variable (strict : Bool) (settings : Settings) (tree : FileTree)

/-- The certificate in a file. -/
def certificateOf (path : Path) : Outcome Certificate := do
  Certificate.fromBytes strict (← contentOf tree path)

/-- The format of a file. -/
def formatOf (path : Path) : Outcome Format := do
  CertChain.identify strict (← contentOf tree path)

/-- **What a command answers**, under settings and with these files. -/
def answer : Command → Except Fault (Outcome Delivery)
  | .identify path => .ok do
    let format ← formatOf settings.strictDer tree path
    return .ofLines [format.name]
  | .info path => .ok do
    let format ← formatOf settings.strictDer tree path
    let certificate ← certificateOf settings.strictDer tree path
    return .ofLines (report format certificate)
  | .convert path format output => .ok do
    let certificate ← certificateOf settings.strictDer tree path
    return ⟨certificate.encode (format.getD settings.outputFormat), output⟩
  | .verify signer (some signee) => .ok do
    let first ← certificateOf settings.strictDer tree signer
    let second ← certificateOf settings.strictDer tree signee
    let pair ← (Pair.mk first second).verify
    return .ofLines ["OK: " ++ pair.signer.subject ++ " signs " ++ pair.signee.subject]
  | .verify _ none => .error noPath

/-- The entry for a file that is loaded; a file that cannot be read has none. -/
def loadEntries (path : Path) : List Event :=
  match contentOf tree path with
  | .ok content => [Loader.entry content.length (Certificate.fromBytes strict content)]
  | .error _ => []

/-- The entry for a pair that is verified, if there is a pair. -/
def verifyEntries (signer signee : Path) : List Event :=
  match certificateOf strict tree signer, certificateOf strict tree signee with
  | .ok first, .ok second => [(Pair.mk first second).entry (Pair.mk first second).verify]
  | _, _ => []

/-- **The entries that a command makes**, in order. -/
def entries : Command → List Event
  | .identify _ => []
  | .info path | .convert path _ _ | .verify path none =>
    loadEntries settings.strictDer tree path
  | .verify signer (some signee) =>
    loadEntries settings.strictDer tree signer ++ loadEntries settings.strictDer tree signee
      ++ verifyEntries settings.strictDer tree signer signee

end Answer

/-! ### The steps that commands have in common -/

section Steps

variable (strict : Bool) (threshold : Nat) (machine : Machine)

/-- To print lines is to deliver them. -/
theorem on_printLines (lines : List String) :
    (printLines lines : Steps (Filtered OnMachine) Unit).on threshold machine
      = (Delivery.ofLines lines).on machine :=
  on_put threshold machine _ none

/-- A loader makes an entry and has its outcome; the machine is not asked for anything. -/
theorem on_load (content : Bytes) :
    ((Loader.mk strict).load content : Steps (Filtered OnMachine) (Outcome Certificate)).on
        threshold machine
      = (.ok (Certificate.fromBytes strict content),
          machine.recordAll threshold
            [Loader.entry content.length (Certificate.fromBytes strict content)]) := by
  unfold Loader.load
  rw [on_bind, on_record]
  rfl

/-- A file that is loaded leaves an entry, if it can be read. -/
theorem on_loadFile (path : Path) :
    (loadFile (Loader.mk strict) path : Steps (Filtered OnMachine) Certificate).on
        threshold machine
      = (certificateOf strict machine.tree path,
          machine.recordAll threshold (loadEntries strict machine.tree path)) := by
  unfold loadFile certificateOf loadEntries
  rw [on_bind, on_readFile]
  -- a file that cannot be read leaves no entry and is the failure of the step
  cases contentOf machine.tree path with
  | error failure =>
    rw [Machine.recordAll_nil]
    rfl
  | ok content =>
    simp only [on_bind, on_load, on_settle]
    rfl

end Steps

/-! ### Commands -/

/-- What becomes of a machine on which an outcome is delivered. -/
def deliver (outcome : Outcome Delivery) (machine : Machine) : Outcome Unit × Machine :=
  match outcome with
  | .ok delivery => delivery.on machine
  | .error failure => (.error failure, machine)

section Commands

variable (strict : Bool) (threshold : Nat) (machine : Machine) (path : Path)

/-- The encoding of a file is told without an entry. -/
theorem on_identifyFile :
    (identifyFile strict path : Steps (Filtered OnMachine) Unit).on threshold machine
      = deliver (do
          let format ← formatOf strict machine.tree path
          return .ofLines [format.name]) machine := by
  unfold identifyFile formatOf
  rw [on_bind, on_readFile]
  -- reading and telling the encoding do not touch the machine, so only the printing does
  cases contentOf machine.tree path with
  | error failure => rfl
  | ok content =>
    simp only [on_bind, on_settle, Outcome.ok_bind]
    cases CertChain.identify strict content with
    | error failure => rfl
    | ok format => exact on_printLines threshold machine [format.name]

/-- A description loads the file and asks for its encoding. -/
theorem on_describeFile :
    (describeFile strict path : Steps (Filtered OnMachine) Unit).on threshold machine
      = deliver (do
          let format ← formatOf strict machine.tree path
          let certificate ← certificateOf strict machine.tree path
          return .ofLines (report format certificate))
        (machine.recordAll threshold (loadEntries strict machine.tree path)) := by
  unfold describeFile formatOf certificateOf loadEntries
  rw [on_bind, on_readFile]
  cases contentOf machine.tree path with
  | error failure =>
    rw [Machine.recordAll_nil]
    rfl
  | ok content =>
    -- the entry is made before anybody looks at the format
    simp only [on_bind, on_load, on_settle, Outcome.ok_bind]
    cases CertChain.identify strict content with
    | error failure => rfl
    | ok format =>
      simp only [Outcome.ok_bind]
      cases Certificate.fromBytes strict content with
      | error failure => rfl
      | ok certificate => exact on_printLines threshold _ (report format certificate)

/-- A conversion loads the file and delivers it in the format. -/
theorem on_convertFile (format : Format) (output : Option Path) :
    (convertFile strict path format output : Steps (Filtered OnMachine) Unit).on
        threshold machine
      = deliver (do
          let certificate ← certificateOf strict machine.tree path
          return ⟨certificate.encode format, output⟩)
        (machine.recordAll threshold (loadEntries strict machine.tree path)) := by
  unfold convertFile
  rw [on_bind, on_loadFile]
  cases certificateOf strict machine.tree path with
  | error failure => rfl
  | ok certificate => exact on_put threshold _ _ output

/-- The name of a format is the name of no other. -/
theorem on_convertNamed (format : Format) (output : Option Path) :
    (convertNamed strict path format.name output : Steps (Filtered OnMachine) Unit).on
        threshold machine
      = (convertFile strict path format output : Steps (Filtered OnMachine) Unit).on
          threshold machine := by
  unfold convertNamed
  -- and so the second look at the name finds the format that it was written for
  rw [on_bind, on_settle, Format.parse_name]

/-- A check makes an entry and has its outcome. -/
theorem on_verifyLogged (pair : Pair) :
    (pair.verifyLogged : Steps (Filtered OnMachine) (Outcome Pair)).on threshold machine
      = (.ok pair.verify, machine.recordAll threshold [pair.entry pair.verify]) := by
  unfold Pair.verifyLogged
  rw [on_bind, on_record]
  rfl

/-- A check of two files loads both, and checks them if both have a certificate. -/
theorem on_verifyFiles (signer signee : Path) :
    (verifyFiles strict signer signee : Steps (Filtered OnMachine) Unit).on threshold machine
      = deliver (do
          let first ← certificateOf strict machine.tree signer
          let second ← certificateOf strict machine.tree signee
          let pair ← (Pair.mk first second).verify
          return .ofLines ["OK: " ++ pair.signer.subject ++ " signs " ++ pair.signee.subject])
        (machine.recordAll threshold (loadEntries strict machine.tree signer
          ++ loadEntries strict machine.tree signee
          ++ verifyEntries strict machine.tree signer signee)) := by
  unfold verifyFiles verifyEntries
  rw [on_bind, on_outcomeOf, on_loadFile]
  simp only [on_bind, on_outcomeOf, on_loadFile, on_settle, Machine.tree_recordAll,
    Machine.recordAll_recordAll]
  -- both entries have been made when the first outcome is looked at
  cases certificateOf strict machine.tree signer with
  | error failure =>
    rw [List.append_nil]
    rfl
  | ok first =>
    simp only [Outcome.ok_bind]
    cases certificateOf strict machine.tree signee with
    | error failure =>
      rw [List.append_nil]
      rfl
    | ok second =>
      simp only [on_verifyLogged, Machine.recordAll_recordAll, Outcome.ok_bind]
      cases (Pair.mk first second).verify with
      | error failure => rfl
      | ok pair => exact on_printLines threshold _ _

end Commands

/-! ### Carrying a command out -/

/-- What becomes of a machine on which an answer is given. -/
def give (answer : Except Fault (Outcome Delivery)) (machine : Machine) :
    Except Fault (Outcome Unit) × Machine :=
  match answer with
  | .ok outcome => (.ok (deliver outcome machine).1, (deliver outcome machine).2)
  | .error fault => (.error fault, machine)

/-- **A command on a machine**, with a threshold for the log. -/
def runOn (command : Command) (settings : Settings) (threshold : Nat) (machine : Machine) :
    Except Fault (Outcome Unit) × Machine :=
  (ReaderT.run (command.run settings : Filtered OnMachine _) threshold).run machine

/-- **What a command comes to**: the entries are made, and the answer is given. -/
theorem runOn_eq (command : Command) (settings : Settings) (threshold : Nat) (machine : Machine) :
    command.runOn settings threshold machine
      = give (answer settings machine.tree command)
          (machine.recordAll threshold (entries settings machine.tree command)) := by
  -- a command that is made of steps has no fault, and its outcome is that of the steps
  have hsteps : ∀ steps : Steps (Filtered OnMachine) Unit,
      (ReaderT.run (Except.ok <$> steps.run : Filtered OnMachine (Except Fault (Outcome Unit)))
        threshold).run machine
        = (.ok (steps.on threshold machine).1, (steps.on threshold machine).2) :=
    fun steps => rfl
  unfold runOn
  cases command with
  | identify path =>
    have hon := on_identifyFile settings.strictDer threshold machine path
    rw [run, hsteps, hon, entries, Machine.recordAll_nil]
    rfl
  | info path =>
    rw [run, hsteps, on_describeFile]
    rfl
  | convert path format output =>
    rw [run, hsteps, on_convertNamed, on_convertFile]
    rfl
  | verify signer signee =>
    cases signee with
    | some signee =>
      rw [run, hsteps, on_verifyFiles]
      rfl
    | none =>
      -- the first file is loaded, for nothing
      have hload := on_loadFile settings.strictDer threshold machine signer
      show (Except.error noPath, ((loadFile (Loader.mk settings.strictDer) signer
        : Steps (Filtered OnMachine) Certificate).on threshold machine).2) = _
      rw [hload]
      rfl

end Command
end CertChain
