import CertChain.Proofs.Program

/-!
# A machine under watch

A machine from which a file has been read is the machine it was, so the end of a run does not
tell what was read on the way. A machine under watch (`Watched`) keeps the paths, in order.

It is a machine otherwise, and that takes an argument. The program is written for any host, and a
relation between two hosts that is kept by each of their steps (`HostRelation`) is kept by all
that is put together of such steps, up to the whole program (`HostRelation.perform`). To be the
same but for the watch is such a relation, so a run under watch is the run itself
(`Program.watchOn_eq`).
-/

namespace CertChain

/-! ### Relations between hosts -/

/-- **A relation between two hosts** that all of their steps keep. -/
structure HostRelation (m n : Type → Type) [Monad m] [MonadHost m] [Monad n] [MonadHost n] where
  rel {α : Type} : m α → n α → Prop
  rel_pure {α : Type} (a : α) : rel (pure a) (pure a)
  rel_bind {α β : Type} {x : m α} {y : n α} {f : α → m β} {g : α → n β} :
    rel x y → (∀ a, rel (f a) (g a)) → rel (x >>= f) (y >>= g)
  rel_record (event : Event) : rel (MonadLog.record event) (MonadLog.record event)
  rel_readFile (path : Path) : rel (MonadHost.readFile path) (MonadHost.readFile path)
  rel_writeFile (path : Path) (content : Bytes) :
    rel (MonadHost.writeFile path content) (MonadHost.writeFile path content)
  rel_print (octets : Bytes) : rel (MonadHost.print octets) (MonadHost.print octets)
  rel_environment : rel MonadHost.environment MonadHost.environment

namespace HostRelation

variable {m n : Type → Type} [Monad m] [MonadHost m] [Monad n] [MonadHost n]
  (R : HostRelation m n)

open Program CommandLine

/-- **Settings are found alike** on hosts that are related. -/
theorem findSettings (invocation : Invocation) :
    R.rel (Program.findSettings invocation) (Program.findSettings invocation) :=
  R.rel_bind (R.rel_readFile settingsPath) fun _ =>
    R.rel_bind R.rel_environment fun _ => R.rel_pure _

/-- Hosts on which only some entries are made are related at every threshold. -/
def filtered : HostRelation (Filtered m) (Filtered n) where
  rel x y := ∀ threshold, R.rel (x.run threshold) (y.run threshold)
  rel_pure a _ := R.rel_pure a
  rel_bind hx hf threshold := R.rel_bind (hx threshold) fun a => hf a threshold
  rel_record event threshold := by
    show R.rel (if threshold ≤ event.level.severity then MonadLog.record event else pure ())
      (if threshold ≤ event.level.severity then MonadLog.record event else pure ())
    by_cases hpasses : threshold ≤ event.level.severity
    · rw [if_pos hpasses, if_pos hpasses]
      exact R.rel_record event
    · rw [if_neg hpasses, if_neg hpasses]
      exact R.rel_pure ()
  rel_readFile path _ := R.rel_readFile path
  rel_writeFile path content _ := R.rel_writeFile path content
  rel_print octets _ := R.rel_print octets
  rel_environment _ := R.rel_environment

variable [LawfulMonad m] [LawfulMonad n]

/-- A result that is looked at differently on both sides stays related. -/
theorem rel_map {α β : Type} {x : m α} {y : n α} (f : α → β) (h : R.rel x y) :
    R.rel (f <$> x) (f <$> y) := by
  -- looking at a result is one more step, which changes nothing
  rw [map_eq_pure_bind, map_eq_pure_bind]
  exact R.rel_bind h fun a => R.rel_pure (f a)

/-- Steps that may fail are related by what comes of them. -/
def steps : HostRelation (Command.Steps m) (Command.Steps n) where
  rel x y := R.rel x.run y.run
  rel_pure a := R.rel_pure (Except.ok a)
  rel_bind hx hf := by
    rw [ExceptT.run_bind, ExceptT.run_bind]
    refine R.rel_bind hx fun outcome => ?_
    -- there are further steps only if the first ones have not failed
    cases outcome with
    | ok a => exact hf a
    | error failure => exact R.rel_pure (Except.error failure)
  rel_record event := R.rel_map Except.ok (R.rel_record event)
  rel_readFile path := R.rel_map Except.ok (R.rel_readFile path)
  rel_writeFile path content := R.rel_map Except.ok (R.rel_writeFile path content)
  rel_print octets := R.rel_map Except.ok (R.rel_print octets)
  rel_environment := R.rel_map Except.ok R.rel_environment

/-! ### Commands -/

section Commands

open Command

/-- An outcome that is settled is the same everywhere. -/
theorem settle {α : Type} (outcome : Outcome α) :
    R.steps.rel (Command.settle outcome) (Command.settle outcome) :=
  R.rel_pure outcome

/-- Steps that are related have related outcomes. -/
theorem outcomeOf {α : Type} {x : Steps m α} {y : Steps n α} (h : R.steps.rel x y) :
    R.steps.rel (Command.outcomeOf x) (Command.outcomeOf y) :=
  R.rel_map Except.ok h

/-- Files are read alike, and what cannot be read is the same failure. -/
theorem readFile (path : Path) :
    R.steps.rel (Command.readFile path) (Command.readFile path) := by
  refine R.steps.rel_bind (R.steps.rel_readFile path) fun result => ?_
  cases result with
  | ok content => exact R.steps.rel_pure content
  | error fault => exact R.rel_pure (Except.error (unreadable path fault))

/-- Octets are delivered alike, to a file and to the output. -/
theorem put (content : Bytes) (target : Option Path) :
    R.steps.rel (Command.put content target) (Command.put content target) := by
  -- the output and the file differ in the step, and in what a refusal is called
  cases target with
  | none =>
    refine R.steps.rel_bind (R.steps.rel_print content) fun result => ?_
    cases result with
    | ok done => exact R.steps.rel_pure ()
    | error fault => exact R.rel_pure (Except.error (unprintable fault))
  | some path =>
    refine R.steps.rel_bind (R.steps.rel_writeFile path content) fun result => ?_
    cases result with
    | ok done => exact R.steps.rel_pure ()
    | error fault => exact R.rel_pure (Except.error (unwritable path fault))

/-- Lines are printed alike. -/
theorem printLines (lines : List String) :
    R.steps.rel (Command.printLines lines) (Command.printLines lines) :=
  R.put _ none

/-- A loader makes its entry and loads, alike. -/
theorem load (loader : Loader) (content : Bytes) :
    R.steps.rel (loader.load content) (loader.load content) :=
  R.steps.rel_bind (R.steps.rel_record _) fun _ => R.steps.rel_pure _

/-- A file is loaded alike. -/
theorem loadFile (loader : Loader) (path : Path) :
    R.steps.rel (Command.loadFile loader path) (Command.loadFile loader path) :=
  R.steps.rel_bind (R.readFile path) fun content =>
    R.steps.rel_bind (R.load loader content) fun outcome => R.settle outcome

/-- The encoding of a file is told alike. -/
theorem identifyFile (strict : Bool) (path : Path) :
    R.steps.rel (Command.identifyFile strict path) (Command.identifyFile strict path) :=
  R.steps.rel_bind (R.readFile path) fun content =>
    R.steps.rel_bind (R.settle (CertChain.identify strict content)) fun format =>
      R.printLines [format.name]

/-- A file is described alike. -/
theorem describeFile (strict : Bool) (path : Path) :
    R.steps.rel (Command.describeFile strict path) (Command.describeFile strict path) :=
  R.steps.rel_bind (R.readFile path) fun content =>
    R.steps.rel_bind (R.load ⟨strict⟩ content) fun certificate =>
      R.steps.rel_bind (R.settle (CertChain.identify strict content)) fun format =>
        R.steps.rel_bind (R.settle certificate) fun c => R.printLines (report format c)

/-- A file is converted alike. -/
theorem convertFile (strict : Bool) (path : Path) (format : Format) (output : Option Path) :
    R.steps.rel (Command.convertFile strict path format output)
      (Command.convertFile strict path format output) :=
  R.steps.rel_bind (R.loadFile ⟨strict⟩ path) fun c => R.put (c.encode format) output

/-- A file is converted alike to a format that is given by its name. -/
theorem convertNamed (strict : Bool) (path : Path) (name : String) (output : Option Path) :
    R.steps.rel (Command.convertNamed strict path name output)
      (Command.convertNamed strict path name output) :=
  R.steps.rel_bind (R.settle (Format.parse name)) fun format =>
    R.convertFile strict path format output

/-- Two files are checked alike. -/
theorem verifyFiles (strict : Bool) (signer signee : Path) :
    R.steps.rel (Command.verifyFiles strict signer signee)
      (Command.verifyFiles strict signer signee) := by
  -- both files are loaded before anybody looks at what has come of the first
  refine R.steps.rel_bind (R.outcomeOf (R.loadFile ⟨strict⟩ signer)) fun first => ?_
  refine R.steps.rel_bind (R.outcomeOf (R.loadFile ⟨strict⟩ signee)) fun second => ?_
  refine R.steps.rel_bind (R.settle first) fun signer => ?_
  refine R.steps.rel_bind (R.settle second) fun signee => ?_
  have hverify : R.steps.rel (Pair.mk signer signee).verifyLogged
      (Pair.mk signer signee).verifyLogged :=
    R.steps.rel_bind (R.steps.rel_record _) fun _ => R.steps.rel_pure _
  refine R.steps.rel_bind hverify fun checked => ?_
  exact R.steps.rel_bind (R.settle checked) fun pair => R.printLines _

/-- **A command is carried out alike** on hosts that are related. -/
theorem run (settings : Settings) (command : Command) :
    R.rel (command.run settings) (command.run settings) := by
  cases command with
  | identify path => exact R.rel_map Except.ok (R.identifyFile settings.strictDer path)
  | info path => exact R.rel_map Except.ok (R.describeFile settings.strictDer path)
  | convert path format output =>
    exact R.rel_map Except.ok (R.convertNamed settings.strictDer path _ output)
  | verify signer signee =>
    cases signee with
    | some signee => exact R.rel_map Except.ok (R.verifyFiles settings.strictDer signer signee)
    | none =>
      -- the first file is loaded, for nothing
      exact R.rel_bind (R.loadFile ⟨settings.strictDer⟩ signer) fun _ =>
        R.rel_pure (Except.error noPath)

end Commands

/-! ### The program -/

/-- A command is announced and carried out alike. -/
theorem runCommand (command : Command) (settings : Settings) :
    R.rel (Program.runCommand command settings) (Program.runCommand command settings) := by
  refine R.rel_bind (R.rel_record _) fun _ => R.rel_bind (R.run settings command) fun result => ?_
  -- a fault that escapes, a failure, and a success are all that a command comes to
  rcases result with fault | failure | ⟨⟩
  · exact R.rel_pure (Ending.broken fault)
  · exact R.rel_pure (Ending.ofFailure failure)
  · exact R.rel_pure Ending.done

/-- **The program is carried out alike** on hosts that are related. -/
theorem perform (line : List String) :
    R.rel (Program.perform line) (Program.perform line) := by
  unfold Program.perform
  cases Invocation.read line with
  | error stop =>
    cases stop with
    | misuse program misuse => exact R.rel_pure (Ending.misused program misuse)
    | final option => exact R.rel_bind (R.rel_print _) fun _ => R.rel_pure Ending.told
  | ok invocation =>
    -- only who asks for a command gets as far as the settings
    refine R.rel_bind (R.findSettings invocation) fun found => ?_
    cases found with
    | ok settings =>
      dsimp only
      cases thresholdOf settings.logLevel with
      | error fault => exact R.rel_pure (Ending.broken fault)
      | ok threshold => exact R.filtered.runCommand invocation.command settings threshold
    | error reason =>
      cases reason with
      | notText fault => exact R.rel_pure (Ending.broken (.ofText .undecodable fault.text))
      | invalid problems => exact R.rel_pure (Ending.unsettled problems)

end HostRelation

/-! ### Watching -/

/-- **A machine under watch**, with the paths that have been read. -/
structure Watched where
  machine : Machine
  read : List Path

/-- Computations on a machine under watch. -/
abbrev OnWatched := StateM Watched

instance : MonadHost OnWatched where
  record event := modify fun watched =>
    { watched with machine := watched.machine.record event }
  readFile path := modifyGet fun watched =>
    (watched.machine.readFile path, { watched with read := watched.read ++ [path] })
  writeFile path content := modifyGet fun watched =>
    ((watched.machine.writeFile path content).1,
      { watched with machine := (watched.machine.writeFile path content).2 })
  print octets := modifyGet fun watched =>
    ((watched.machine.print octets).1,
      { watched with machine := (watched.machine.print octets).2 })
  environment := return (← get).machine.environment

/-- One computation after another. -/
theorem Watched.run_bind {α β : Type} (first : OnWatched α) (f : α → OnWatched β)
    (watched : Watched) :
    (first >>= f).run watched = (f (first.run watched).1).run (first.run watched).2 :=
  rfl

/-- A computation under watch and the computation itself: their results are the same, and the
same becomes of the machine. -/
def watching : HostRelation OnWatched OnMachine where
  rel x y := ∀ watched : Watched,
    y.run watched.machine = ((x.run watched).1, (x.run watched).2.machine)
  rel_pure _ _ := rfl
  rel_bind {α β x y f g} hx hf watched := by
    -- the first steps leave related machines, and the second ones go on from there
    rw [Machine.run_bind, Watched.run_bind, hx watched]
    exact hf (x.run watched).1 (x.run watched).2
  rel_record _ _ := rfl
  rel_readFile _ _ := rfl
  rel_writeFile _ _ _ := rfl
  rel_print _ _ := rfl
  rel_environment _ := rfl

namespace Program

open CommandLine

/-- **A run of the program under watch.** -/
def watchOn (line : List String) (machine : Machine) : Ending × Watched :=
  (perform line : OnWatched Ending).run ⟨machine, []⟩

/-- The paths that a run reads, in order. -/
def readOn (line : List String) (machine : Machine) : List Path :=
  (watchOn line machine).2.read

/-- **A run under watch is the run itself.** -/
theorem watchOn_eq (line : List String) (machine : Machine) :
    performOn line machine = ((watchOn line machine).1, (watchOn line machine).2.machine) :=
  watching.perform line ⟨machine, []⟩

/-- **A run that does not get past the settings** reads the settings file only. -/
theorem readOn_of_unsettled {line : List String} {invocation : Invocation} {machine : Machine}
    {reason : SettingsError} (hline : Invocation.read line = .ok invocation)
    (hsettings : settingsOn invocation machine = .error reason) :
    readOn line machine = [settingsPath] := by
  -- the file is read and the environment is looked at; neither changes the machine
  have hfind : (findSettings invocation : OnWatched _).run ⟨machine, []⟩
      = (settingsOn invocation machine, ⟨machine, [settingsPath]⟩) := rfl
  unfold readOn watchOn perform
  rw [hline]
  simp only
  rw [Watched.run_bind, hfind, hsettings]
  cases reason with
  | notText fault => rfl
  | invalid problems => rfl

end Program
end CertChain
