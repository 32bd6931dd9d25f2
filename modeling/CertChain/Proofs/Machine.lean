import CertChain.Command

/-!
# Steps on a machine

A command is written for any host. What it does is looked at on a machine, where a step takes
the machine and gives it back changed (`Command.Steps.on`), and only entries that reach the
threshold are made.

There are five kinds of steps, and for each of them one lemma says what it does: an outcome
that is settled, an entry, a file that is read, octets that are delivered, and one step after
another. With these a command is opened once (`CertChain.Proofs.Command`), and nothing else
has to know how hosts are put together.

The log and all the rest of a machine do not touch. `Machine.recordAll` adds to the log, and
what is read or delivered is the same with it and without it.
-/

namespace CertChain

namespace Outcome

variable {α β : Type}

/-- What follows a success goes on with its value. -/
theorem ok_bind (a : α) (f : α → Outcome β) : (Except.ok a : Outcome α) >>= f = f a :=
  rfl

end Outcome

/-! ### The log of a machine -/

namespace Machine

variable (threshold : Nat) (machine : Machine)

/-- Makes those of the entries that reach the threshold. -/
def recordAll (events : List Event) : Machine :=
  { machine with events := machine.events ++ passing threshold events }

@[simp] theorem tree_recordAll (events : List Event) :
    (machine.recordAll threshold events).tree = machine.tree := rfl

@[simp] theorem recordAll_nil : machine.recordAll threshold [] = machine := by
  simp [recordAll, passing]

@[simp] theorem recordAll_recordAll (events more : List Event) :
    (machine.recordAll threshold events).recordAll threshold more
      = machine.recordAll threshold (events ++ more) := by
  simp [recordAll, passing]

/-- One computation after another. -/
theorem run_bind {α β : Type} (first : OnMachine α) (f : α → OnMachine β) :
    (first >>= f).run machine = (f (first.run machine).1).run (first.run machine).2 :=
  rfl

/-- An entry that is made is made only if it reaches the threshold. -/
theorem run_record (event : Event) :
    (ReaderT.run (MonadLog.record event : Filtered OnMachine Unit) threshold).run machine
      = ((), machine.recordAll threshold [event]) := by
  show (if threshold ≤ event.level.severity then
    (MonadLog.record event : OnMachine Unit) else pure ()).run machine = _
  -- an entry below the threshold is as good as none
  by_cases hpasses : threshold ≤ event.level.severity
  · have hpassing : passing threshold [event] = [event] := by simp [passing, hpasses]
    rw [if_pos hpasses, recordAll, hpassing]
    rfl
  · have hpassing : passing threshold [event] = [] := by simp [passing, hpasses]
    rw [if_neg hpasses, recordAll, hpassing, List.append_nil]
    rfl

end Machine

/-! ### What a file holds -/

namespace Command

/-- The content of a file. -/
def contentOf (tree : FileTree) (path : Path) : Outcome Bytes :=
  match tree.read path with
  | .ok content => .ok content
  | .error refusal => .error (unreadable path (refusal.fault path))

/-- **What a command has to tell**, and the file that is to hold it. Without a file it is
printed. -/
structure Delivery where
  content : Bytes
  target : Option Path
  deriving DecidableEq, Repr

/-- Lines that are printed. -/
def Delivery.ofLines (lines : List String) : Delivery :=
  ⟨Bytes.ofText ("".intercalate (lines.map fun line => line ++ "\n")), none⟩

/-- What becomes of a machine on which something is delivered. Neither an output that is not in
order nor a file that cannot be written changes it. -/
def Delivery.on (delivery : Delivery) (machine : Machine) : Outcome Unit × Machine :=
  match delivery.target with
  | none =>
    match machine.output with
    | none => (.ok (), { machine with printed := machine.printed ++ delivery.content })
    | some refusal => (.error (unprintable refusal.fault), machine)
  | some path =>
    match machine.tree.write path delivery.content with
    | .ok tree => (.ok (), { machine with tree := tree })
    | .error refusal => (.error (unwritable path (refusal.fault path)), machine)

/-! ### Steps -/

variable {α β : Type}

/-- **Steps on a machine**, with a threshold for the log. -/
def Steps.on (steps : Steps (Filtered OnMachine) α) (threshold : Nat) (machine : Machine) :
    Outcome α × Machine :=
  (ReaderT.run (ExceptT.run steps) threshold).run machine

section Steps

variable (threshold : Nat) (machine : Machine)

/-- Further steps are done on the machine that the first ones leave, unless those fail. -/
@[simp] theorem on_bind (steps : Steps (Filtered OnMachine) α)
    (f : α → Steps (Filtered OnMachine) β) :
    (steps >>= f).on threshold machine
      = match steps.on threshold machine with
        | (.ok a, after) => (f a).on threshold after
        | (.error failure, after) => (.error failure, after) := by
  unfold Steps.on
  rw [ExceptT.run_bind, ReaderT.run_bind, StateT.run_bind]
  -- from here on it only matters what the first steps come to
  generalize StateT.run (ReaderT.run (ExceptT.run steps) threshold) machine = result
  rcases result with ⟨outcome, after⟩
  cases outcome with
  | ok a => rfl
  | error failure => rfl

/-- To settle an outcome leaves the machine as it is. -/
@[simp] theorem on_settle (outcome : Outcome α) :
    (settle outcome : Steps (Filtered OnMachine) α).on threshold machine = (outcome, machine) :=
  rfl

/-- An entry goes into the log if it reaches the threshold. -/
@[simp] theorem on_record (event : Event) :
    (MonadLog.record event : Steps (Filtered OnMachine) Unit).on threshold machine
      = (.ok (), machine.recordAll threshold [event]) := by
  show (match (ReaderT.run (MonadLog.record event : Filtered OnMachine Unit) threshold).run
    machine with | ((), after) => ((.ok (), after) : Outcome Unit × Machine)) = _
  rw [Machine.run_record]

/-- To read a file leaves the machine as it is. -/
@[simp] theorem on_readFile (path : Path) :
    (readFile path : Steps (Filtered OnMachine) Bytes).on threshold machine
      = (contentOf machine.tree path, machine) := by
  have hread : (MonadHost.readFile path : Steps (Filtered OnMachine) (Except Fault Bytes)).on
      threshold machine = (.ok (machine.readFile path), machine) := rfl
  unfold readFile
  rw [on_bind, hread, Machine.readFile, contentOf]
  -- a refusal becomes a failure of the step, and nothing else happens to it
  cases machine.tree.read path with
  | ok content => rfl
  | error refusal => rfl

/-- Octets are delivered, or nothing changes. -/
@[simp] theorem on_put (content : Bytes) (target : Option Path) :
    (put content target : Steps (Filtered OnMachine) Unit).on threshold machine
      = Delivery.on ⟨content, target⟩ machine := by
  cases target with
  | none =>
    -- what the host says of the printing is a value first, which the step then looks at
    have hprint : (MonadHost.print content
        : Steps (Filtered OnMachine) (Except Fault Unit)).on threshold machine
          = (.ok (machine.print content).1, (machine.print content).2) := rfl
    unfold put
    rw [on_bind, hprint, Machine.print, Delivery.on]
    simp only
    cases machine.output with
    | none => rfl
    | some refusal => rfl
  | some path =>
    have hwrite : (MonadHost.writeFile path content
        : Steps (Filtered OnMachine) (Except Fault Unit)).on threshold machine
          = (.ok (machine.writeFile path content).1, (machine.writeFile path content).2) := rfl
    unfold put
    rw [on_bind, hwrite, Machine.writeFile, Delivery.on]
    simp only
    cases machine.tree.write path content with
    | ok tree => rfl
    | error refusal => rfl

/-- Steps whose failure is looked at cannot fail. -/
@[simp] theorem on_outcomeOf (steps : Steps (Filtered OnMachine) α) :
    (outcomeOf steps).on threshold machine
      = (.ok (steps.on threshold machine).1, (steps.on threshold machine).2) := by
  rfl

end Steps
end Command
end CertChain
