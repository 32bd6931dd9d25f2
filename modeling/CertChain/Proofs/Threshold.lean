import CertChain.Proofs.Level
import CertChain.Proofs.Watched

/-!
# The threshold that a text sets

A text in any letter case is to set the threshold of the level that it names, and the usual one
when it names none (`Sets`). From then on the log is to hold the entries at this level and above,
and no others (`Shows`).

The second half is so for every threshold. Leaving out entries below a threshold afterwards, or
not making them at all, comes to the same: this is a relation between a host on which all entries
are made and one on which only some are (`sieving`), and so it goes through whole commands
(`shows`).

The first half fails for two texts. Names are looked up in a place that holds other things than
levels, too, and two of these have names in capitals. They are no numbers, and what then happens is
a fault (`not_setUp_basicFormat`). All other texts are as they should be
(`setUp_iff`), and the level in settings is always one of these (`setUp_of_load`).
-/

namespace CertChain

/-! ### Names of levels -/

/-- **The number that a name stands for**: each level has a name, two have another one, and there
is a name for what is below all levels. -/
inductive Names : String → Nat → Prop
  | level (level : Level) : Names (capitals level.name) level.severity
  | fatal : Names "FATAL" Level.critical.severity
  | warn : Names "WARN" Level.warning.severity
  | notset : Names "NOTSET" 0

/-- **The threshold that a text should set.** -/
inductive Sets (text : String) : Nat → Prop
  | named {n : Nat} (h : Names (capitals text) n) : Sets text n
  | usual (h : ¬ ∃ n, Names (capitals text) n) : Sets text Level.info.severity

/-- The table of thresholds has the names of levels and no others. -/
theorem lookup_thresholds_iff {name : String} {n : Nat} :
    thresholds.lookup name = some n ↔ Names name n := by
  constructor
  · intro h
    have hmem : (name, n) ∈ thresholds := mem_of_lookup h
    -- the table is gone through once, name by name
    simp only [thresholds, List.mem_cons, Prod.mk.injEq, List.not_mem_nil, or_false] at hmem
    rcases hmem with ⟨rfl, rfl⟩ | ⟨rfl, rfl⟩ | ⟨rfl, rfl⟩ | ⟨rfl, rfl⟩ | ⟨rfl, rfl⟩ | ⟨rfl, rfl⟩
      | ⟨rfl, rfl⟩ | ⟨rfl, rfl⟩
    · exact .level .critical
    · exact .fatal
    · exact .level .error
    · exact .level .warning
    · exact .warn
    · exact .level .info
    · exact .level .debug
    · exact .notset
  · intro h
    cases h with
    | level level => cases level <;> decide
    | fatal => decide
    | warn => decide
    | notset => decide

/-- What a text sets, as the table has it. -/
theorem sets_iff {text : String} {n : Nat} :
    Sets text n ↔ (thresholds.lookup (capitals text)).getD usualThreshold = n := by
  -- a name that is not in the table leaves the usual threshold
  cases hlookup : thresholds.lookup (capitals text) with
  | none =>
    have hnone : ¬ ∃ n, Names (capitals text) n := by
      rintro ⟨n, hn⟩
      rw [lookup_thresholds_iff.mpr hn] at hlookup
      cases hlookup
    constructor
    · intro h
      cases h with
      | named h => exact absurd ⟨n, h⟩ hnone
      | usual h => rfl
    · rintro rfl
      exact .usual hnone
  | some m =>
    have hnamed : Names (capitals text) m := lookup_thresholds_iff.mp hlookup
    constructor
    · intro h
      cases h with
      | named h =>
        rw [lookup_thresholds_iff.mpr h] at hlookup
        exact (Option.some.inj hlookup).symm
      | usual h => exact absurd ⟨m, hnamed⟩ h
    · rintro rfl
      exact .named hnamed

/-- **A text is reserved**: its name is looked up, and something is found that is no level. -/
def Reserved (text : String) : Prop :=
  capitals text = "BASIC_FORMAT" ∨ capitals text = "_STYLES"

/-- The reserved texts are those whose names are found among the reserved ones. -/
theorem reserved_iff {text : String} :
    Reserved text ↔ ∃ fault, reservedNames.lookup (capitals text) = some fault := by
  rw [← Option.isSome_iff_exists, List.lookup_isSome_iff]
  simp [Reserved, reservedNames]

/-- A text that is not reserved sets what it should set, and nothing else. -/
theorem thresholdOf_ok_iff {text : String} {n : Nat} :
    thresholdOf text = .ok n ↔ ¬ Reserved text ∧ Sets text n := by
  rw [reserved_iff, sets_iff]
  unfold thresholdOf
  -- reserved names are looked up before the table is
  cases hlookup : reservedNames.lookup (capitals text) with
  | none => simp [hlookup]
  | some fault => simp [hlookup]

/-! ### Logs from a threshold on -/

namespace Machine

/-- The machine with those entries only that reach a threshold. -/
def sieve (threshold : Nat) (machine : Machine) : Machine :=
  { machine with events := passing threshold machine.events }

/-- To make an entry and to leave it out if it is below is to make it if it is not. -/
theorem sieve_record (threshold : Nat) (event : Event) (machine : Machine) :
    (machine.record event).sieve threshold
      = (machine.sieve threshold).recordAll threshold [event] := by
  simp [sieve, record, recordAll, passing]

/-- Printing does not look at the log. -/
theorem print_sieve (threshold : Nat) (octets : Bytes) (machine : Machine) :
    (machine.sieve threshold).print octets
      = ((machine.print octets).1, (machine.print octets).2.sieve threshold) := by
  have houtput : (machine.sieve threshold).output = machine.output := rfl
  unfold print
  rw [houtput]
  cases machine.output with
  | none => rfl
  | some refusal => rfl

/-- Writing a file does not look at the log. -/
theorem writeFile_sieve (threshold : Nat) (path : Path) (content : Bytes) (machine : Machine) :
    (machine.sieve threshold).writeFile path content
      = ((machine.writeFile path content).1,
        (machine.writeFile path content).2.sieve threshold) := by
  have htree : (machine.sieve threshold).tree = machine.tree := rfl
  unfold writeFile
  rw [htree]
  cases machine.tree.write path content with
  | ok tree => rfl
  | error refusal => rfl

end Machine

/-- **Not making entries below a threshold** is as good as leaving them out afterwards. -/
def sieving (threshold : Nat) : HostRelation (Filtered OnMachine) OnMachine where
  rel x y := ∀ machine : Machine, (x.run threshold).run (machine.sieve threshold)
    = ((y.run machine).1, (y.run machine).2.sieve threshold)
  rel_pure _ _ := rfl
  rel_bind {α β x y f g} hx hf machine := by
    rw [ReaderT.run_bind, Machine.run_bind, Machine.run_bind, hx machine]
    exact hf (y.run machine).1 (y.run machine).2
  rel_record event machine := by
    rw [Machine.run_record, ← Machine.sieve_record]
    rfl
  rel_readFile _ _ := rfl
  rel_writeFile path content machine := Machine.writeFile_sieve threshold path content machine
  rel_print octets machine := Machine.print_sieve threshold octets machine
  rel_environment _ := rfl

open Program

/-- A command under a log from a threshold on. -/
def loggedFrom (threshold : Nat) (command : Command) (settings : Settings) (machine : Machine) :
    Ending × Machine :=
  (ReaderT.run (runCommand command settings : Filtered OnMachine Ending) threshold).run machine

/-- A command under a log that holds everything. -/
def loggedAll (command : Command) (settings : Settings) (machine : Machine) : Ending × Machine :=
  (runCommand command settings : OnMachine Ending).run machine

/-- Entries made one after the other, under a log from a threshold on. -/
def enteredFrom (threshold : Nat) (events : List Event) (machine : Machine) : Machine :=
  ((ReaderT.run (events.forM MonadLog.record : Filtered OnMachine Unit) threshold).run machine).2

/-- **The log shows the entries at a threshold and above**, and no others, in the order in which
they are made. This is so of entries that somebody makes, and of the ones that commands make, which
come to the same otherwise. -/
structure Shows (threshold : Nat) : Prop where
  entries : ∀ events machine, enteredFrom threshold events machine
    = { machine with
        events := machine.events ++ events.filter fun e => threshold ≤ e.level.severity }
  commands : ∀ command settings (machine : Machine), machine.events = [] →
    loggedFrom threshold command settings machine
      = ((loggedAll command settings machine).1,
        { (loggedAll command settings machine).2 with
          events := (loggedAll command settings machine).2.events.filter fun e =>
            threshold ≤ e.level.severity })

/-- Entries that are made one after the other are recorded one after the other. -/
theorem enteredFrom_eq (threshold : Nat) (events : List Event) (machine : Machine) :
    enteredFrom threshold events machine = machine.recordAll threshold events := by
  induction events generalizing machine with
  | nil => exact (Machine.recordAll_nil threshold machine).symm
  | cons event rest ih =>
    -- one entry is made, and the others on the machine that it leaves
    have hstep : enteredFrom threshold (event :: rest) machine
        = enteredFrom threshold rest (machine.recordAll threshold [event]) := by
      unfold enteredFrom
      rw [List.forM_eq_forM, List.forM_cons, ReaderT.run_bind, Machine.run_bind,
        Machine.run_record]
    rw [hstep, ih, Machine.recordAll_recordAll, List.singleton_append]

/-- Every threshold shows what it should. -/
theorem shows (threshold : Nat) : Shows threshold where
  entries events machine := enteredFrom_eq threshold events machine
  commands command settings machine hempty := by
    -- on a machine whose log is empty nothing has to be left out to begin with
    have hsieve : machine.sieve threshold = machine := by
      obtain ⟨tree, environment, output, printed, events⟩ := machine
      cases hempty
      rfl
    have hrel := (sieving threshold).runCommand command settings machine
    rw [hsieve] at hrel
    exact hrel

/-! ### Texts -/

/-- **The log is set up by a text** as it should be. -/
structure SetUp (text : String) (threshold : Nat) : Prop where
  accepted : thresholdOf text = .ok threshold
  sets : Sets text threshold
  shows : Shows threshold

/-- A text that is accepted sets up the log. -/
theorem setUp_of_accepted {text : String} {threshold : Nat}
    (h : thresholdOf text = .ok threshold) : SetUp text threshold :=
  ⟨h, (thresholdOf_ok_iff.mp h).2, shows threshold⟩

/-- A text sets up the log unless it is reserved. -/
theorem exists_setUp_iff {text : String} :
    (∃ threshold, SetUp text threshold) ↔ ¬ Reserved text := by
  constructor
  · rintro ⟨threshold, h⟩
    exact (thresholdOf_ok_iff.mp h.accepted).1
  · intro h
    exact ⟨_, setUp_of_accepted (thresholdOf_ok_iff.mpr ⟨h, sets_iff.mpr rfl⟩)⟩

/-- The level in settings is a name of a level. -/
theorem setUp_of_load {choices : List (String × Datum)} {environment : List (String × String)}
    {file : Option Bytes} {settings : Settings}
    (h : Settings.load choices environment file = .ok settings) :
    SetUp settings.logLevel settings.threshold :=
  setUp_of_accepted (Settings.thresholdOf_of_load h)

/-- **Every text but the reserved ones sets up the log**, and there is no other way to set it
up. The level in settings is never a reserved text: it is a name, and the threshold of the settings
is the one that it sets. -/
theorem setUp_iff (text : String) :
    ((∃ threshold, SetUp text threshold) ↔ ¬ Reserved text)
    ∧ (∀ threshold, thresholdOf text = .ok threshold → SetUp text threshold)
    ∧ (Reserved text → ∃ fault, thresholdOf text = .error fault)
    ∧ ∀ choices environment file settings,
      Settings.load choices environment file = .ok settings →
        SetUp settings.logLevel settings.threshold := by
  refine ⟨exists_setUp_iff, fun _ => setUp_of_accepted, ?_, fun _ _ _ _ => setUp_of_load⟩
  intro hreserved
  -- a reserved text is not accepted, and what is not accepted is a fault
  cases hthreshold : thresholdOf text with
  | error fault => exact ⟨fault, rfl⟩
  | ok n => exact absurd hreserved (thresholdOf_ok_iff.mp hthreshold).1

/-- A name with a long s, a text that names no level, and the settings of a caller who says
nothing. -/
theorem setUp_notset :
    ¬ Reserved "notſet" ∧ SetUp "notſet" 0 ∧ SetUp "10" 20
      ∧ SetUp (Settings.mk "INFO" false .pem).logLevel
        (Settings.mk "INFO" false .pem).threshold := by
  -- a long s has a capital S, so this is a name of the table
  obtain ⟨hset, haccepted, -, hload⟩ := setUp_iff "notſet"
  obtain ⟨-, hnumber, -, -⟩ := setUp_iff "10"
  have hzero : SetUp "notſet" 0 := haccepted 0 rfl
  exact ⟨hset.mp ⟨0, hzero⟩, hzero, hnumber 20 rfl, hload [] [] none _ rfl⟩

/-- **A text that names the form of entries sets up nothing.** -/
theorem not_setUp_basicFormat :
    (∃ fault, thresholdOf "basic_format" = .error fault)
      ∧ ¬ ∃ threshold, SetUp "basic_format" threshold := by
  refine ⟨⟨_, rfl⟩, ?_⟩
  rintro ⟨threshold, h⟩
  have haccepted := h.accepted
  cases haccepted

end CertChain
