import CertChain.Proofs.Strictness

/-!
# The level decides the log and nothing else

The names of levels are the fixed points of the way levels are read: a text in any letter case,
with blanks around it, is accepted when it comes to such a name, and the name itself is accepted
as it is. Every name has a number, so no accepted level ends up at the usual one by accident
(`readLevel_name`).

Take two runs that ask for the same, with the same values for the other settings, at two levels
(`Program.Run.AtLevel`). Whatever comes of the settings files, of the other settings and of the
command, they end the same way and leave the same files and the same output. Their logs are cut out
of one list of entries: of two logs, the one at the higher level is what passes of the other one
(`Program.level_decides_log_only`). Of a command line this is true for any two levels in front of
it, also when the line cannot be read or has a level of its own.

The argument is that a command has its answer and its entries from the other settings alone
(`Command.answer_logLevel`), and that neither the answer nor its delivery looks at the log.
-/

namespace CertChain

/-! ### Levels on a command line -/

/-- What does not belong to the end stays in front. -/
theorem exists_dropEndWhile_cons {p : Char → Bool} {c : Char} (h : ¬ p c = true)
    (cs : List Char) : ∃ front, dropEndWhile p (c :: cs) = c :: front := by
  unfold dropEndWhile
  rw [List.reverse_cons, List.dropWhile_append]
  by_cases hempty : (cs.reverse.dropWhile p).isEmpty = true
  · rw [if_pos hempty, List.dropWhile_cons_of_neg h]
    exact ⟨[], rfl⟩
  · rw [if_neg hempty, List.reverse_append]
    exact ⟨_, rfl⟩

/-- An accepted level does not look like an option. -/
theorem isOperand_of_readLevel {text level : String} (h : readLevel (.text text) = .ok level) :
    CommandLine.Invocation.IsOperand text := by
  refine CommandLine.Invocation.isOperand_of_head fun hdash => ?_
  obtain ⟨hlevel, hsome⟩ := readLevel_ok_iff.mp h
  obtain ⟨rest, htext⟩ := List.head?_eq_some_iff.mp hdash
  have hblank : ¬ isBlank '-' = true := by decide
  obtain ⟨front, hfront⟩ := exists_dropEndWhile_cons hblank rest
  -- the dash is no blank and no letter, so it would stand in front of the name, too
  have hname : level.toList.head? = some '-' := by
    rw [hlevel, capitals, strip, htext, List.dropWhile_cons_of_neg hblank, hfront]
    simp [show capital '-' = ['-'] from rfl]
  have hnames : ∀ level ∈ thresholds.map Prod.fst, level.toList.head? ≠ some '-' := by decide
  exact hnames level (mem_thresholds hsome) hname

/-! ### Logs -/

/-- Of entries that pass a threshold, those that pass a higher one. -/
theorem passing_passing {low high : Nat} (h : low ≤ high) (events : List Event) :
    passing high (passing low events) = passing high events := by
  unfold passing
  -- what passes the higher threshold passes the lower one as well
  rw [List.filter_filter]
  refine List.filter_congr fun event _ => ?_
  simp only [← Bool.decide_and, decide_eq_decide]
  exact and_iff_left_of_imp (Nat.le_trans h)

namespace Command

variable (answer : Except Fault (Outcome Delivery))

/-- A command has its answer and its entries from the other settings. -/
theorem answer_logLevel (level : String) (settings : Settings) (tree : FileTree)
    (command : Command) :
    Command.answer { settings with logLevel := level } tree command
        = Command.answer settings tree command
      ∧ entries { settings with logLevel := level } tree command
        = entries settings tree command := by
  cases command with
  | identify path => exact ⟨rfl, rfl⟩
  | info path => exact ⟨rfl, rfl⟩
  | convert path format output => exact ⟨rfl, rfl⟩
  | verify signer signee => cases signee <;> exact ⟨rfl, rfl⟩

/-- Nothing is entered when an answer is given. -/
theorem events_give (machine : Machine) : (give answer machine).2.events = machine.events := by
  rcases answer with fault | failure | delivery
  · rfl
  · rfl
  · show (delivery.on machine).2.events = machine.events
    unfold Delivery.on
    cases delivery.target with
    | none =>
      simp only
      cases machine.output <;> rfl
    | some path =>
      simp only
      cases machine.tree.write path delivery.content <;> rfl

end Command

/-! ### Settings beside the level -/

namespace Settings

/-- **The settings beside the level**, or all problems with them. -/
def besideLevel (others : Source) : Except (List Problem) (Bool × Format) :=
  match one [others] .strictDer false readTruth, one [others] .outputFormat .pem readFormat with
  | .ok strict, .ok format => .ok (strict, format)
  | strict, format => .error (problemOf strict ++ problemOf format)

/-- With a level that is accepted it is up to the other settings. -/
theorem ofSources_of_level_ok {sources : List Source} {others : Source} {level : String}
    (hlevel : one sources .logLevel "INFO" readLevel = .ok level)
    (hothers : ∀ s, s ≠ .logLevel → given sources s = others s) :
    ofSources sources
      = match besideLevel others with
        | .ok (strict, format) => .ok ⟨level, strict, format⟩
        | .error problems => .error problems := by
  have hgiven : ∀ s, s ≠ .logLevel → given sources s = given [others] s := by
    intro s hs
    rw [hothers s hs, given, List.findSome?_cons, List.findSome?_nil]
    cases others s <;> rfl
  -- the other two settings are read from the same values in either way
  have hstrict := one_congr (hgiven .strictDer (by decide)) false readTruth
  have hformat := one_congr (hgiven .outputFormat (by decide)) Format.pem readFormat
  unfold ofSources besideLevel
  rw [hlevel, hstrict, hformat]
  cases one [others] .strictDer false readTruth <;>
    cases one [others] .outputFormat .pem readFormat <;> rfl

end Settings

namespace Program

open CommandLine

namespace Run

/-! ### Runs at a level -/

/-- What is found in the settings file. -/
def table (run : Run) : Except Utf8.Fault DotEnv.Table :=
  Settings.tableOf run.environment (run.before.readFile settingsPath).toOption

/-- The places where settings are looked for. -/
def sources (run : Run) (invocation : Invocation) (table : DotEnv.Table) : List Source :=
  [.ofChoices invocation.choices, .ofEnvironment run.environment, .ofTable table]

/-- **A run at a level**: it is to carry out a command, and the level and what is given for the
other settings are these, unless the settings file is no text. -/
def AtLevel (run : Run) (command : Command) (others : Source) (level : String) : Prop :=
  ∃ invocation, Invocation.read run.line = .ok invocation ∧ invocation.command = command
    ∧ ∀ table, run.table = .ok table →
      Settings.one (run.sources invocation table) .logLevel "INFO" readLevel = .ok level
      ∧ ∀ s, s ≠ .logLevel → Settings.given (run.sources invocation table) s = others s

/-- Two runs **agree** but for the log: they end the same way, and leave the same files and the
same output. -/
structure Agrees (run other : Run) : Prop where
  ending : other.ending = run.ending
  tree : other.after.tree = run.after.tree
  printed : other.after.printed = run.after.printed

/-- **The logs of two runs** are as their levels say: the one at the higher level is what passes
of the other one, in the same order. -/
def LogsAt (run other : Run) (level higher : String) : Prop :=
  ∀ low high, thresholds.lookup level = some low → thresholds.lookup higher = some high →
    low ≤ high → other.after.events = passing high run.after.events
      ∧ other.after.events.Sublist run.after.events

variable {run other : Run} {command : Command} {others : Source} {level higher : String}

/-- The settings that a run finds are looked for in these places. -/
theorem settingsOn_before (invocation : Invocation) :
    settingsOn invocation run.before
      = match run.table with
        | .error fault => .error (.notText fault)
        | .ok table =>
          match Settings.ofSources (run.sources invocation table) with
          | .ok settings => .ok settings
          | .error problems => .error (.invalid problems) :=
  rfl

/-- **What a run at a level comes to.** -/
theorem AtLevel.performOn_eq (h : run.AtLevel command others level) :
    (run.ending, run.after)
      = match run.table with
        | .error fault => (.broken (.ofText .undecodable fault.text), run.before)
        | .ok _ =>
          match Settings.besideLevel others with
          | .error problems => (.unsettled problems, run.before)
          | .ok (strict, format) => carry command ⟨level, strict, format⟩ run.before := by
  obtain ⟨invocation, hline, rfl, hfound⟩ := h
  have hperform := Program.performOn_eq hline run.before
  show performOn run.line run.before = _
  rw [hperform, settingsOn_before]
  -- a fault comes before any setting is looked for
  cases htable : run.table with
  | error fault => rfl
  | ok table =>
    obtain ⟨hlevel, hothers⟩ := hfound table htable
    simp only [Settings.ofSources_of_level_ok hlevel hothers]
    cases Settings.besideLevel others with
    | error problems => rfl
    | ok found => rfl

/-- The same files give the same table, or the same fault. -/
theorem table_error_iff (htree : other.tree = run.tree) {fault : Utf8.Fault} :
    other.table = .error fault ↔ run.table = .error fault := by
  have hfile : other.before.readFile settingsPath = run.before.readFile settingsPath := by
    show (other.tree.read settingsPath).mapError _ = (run.tree.read settingsPath).mapError _
    rw [htree]
  unfold table
  rw [Settings.tableOf_error_iff, Settings.tableOf_error_iff, hfile]

end Run

/-- What a command enters in the log that is empty, is what passes of its entries. -/
theorem events_carry (command : Command) (settings : Settings) {machine : Machine}
    (hempty : machine.events = []) :
    (carry command settings machine).2.events
      = passing settings.threshold
          (.starting command.name settings.strictDer :: command.entries settings machine.tree) := by
  unfold carry
  rw [Command.events_give, Machine.recordAll, hempty, List.nil_append]

/-- **A command carried out at two levels** comes to the same. -/
theorem carry_logLevel (command : Command) (settings : Settings) (level : String)
    {machine other : Machine} (halike : other.Alike machine) :
    (carry command { settings with logLevel := level } other).1
        = (carry command settings machine).1
      ∧ (carry command { settings with logLevel := level } other).2.Alike
        (carry command settings machine).2 := by
  obtain ⟨hanswer, -⟩ := command.answer_logLevel level settings other.tree
  unfold carry
  rw [hanswer, halike.tree]
  -- what has been entered by now is in the log only
  refine ⟨congrArg endingOf (Command.give_alike _ ?_).1, (Command.give_alike _ ?_).2⟩
  · exact ⟨halike.tree, halike.output, halike.printed⟩
  · exact ⟨halike.tree, halike.output, halike.printed⟩

namespace Run

variable {run other : Run} {command : Command} {others : Source} {level higher : String}

/-- Runs that end before anything is done. -/
theorem agrees_of_idle {ending : Ending} (hrun : (run.ending, run.after) = (ending, run.before))
    (hother : (other.ending, other.after) = (ending, other.before))
    (htree : other.tree = run.tree) (level higher : String) :
    run.Agrees other ∧ run.LogsAt other level higher := by
  obtain ⟨hending, hafter⟩ := Prod.mk.inj hrun
  obtain ⟨hending', hafter'⟩ := Prod.mk.inj hother
  refine ⟨⟨hending'.trans hending.symm, ?_, ?_⟩, ?_⟩
  · rw [hafter, hafter']
    exact htree
  · rw [hafter, hafter']
    rfl
  · intro low high _ _ _
    -- neither of the two has entered anything
    rw [hafter, hafter']
    exact ⟨rfl, List.Sublist.refl []⟩

/-- Runs that carry a command out. -/
theorem agrees_of_carry (settings : Settings)
    (hrun : (run.ending, run.after) = carry command settings run.before)
    (hother : (other.ending, other.after)
      = carry command { settings with logLevel := higher } other.before)
    (htree : other.tree = run.tree) :
    run.Agrees other ∧ run.LogsAt other settings.logLevel higher := by
  have hending : run.ending = (carry command settings run.before).1 := congrArg Prod.fst hrun
  have hafter : run.after = (carry command settings run.before).2 := congrArg Prod.snd hrun
  have hending' : other.ending
      = (carry command { settings with logLevel := higher } other.before).1 :=
    congrArg Prod.fst hother
  have hafter' : other.after
      = (carry command { settings with logLevel := higher } other.before).2 :=
    congrArg Prod.snd hother
  have hbefore : other.before.Alike run.before := ⟨htree, rfl, rfl⟩
  obtain ⟨hsame, halike⟩ := carry_logLevel command settings higher hbefore
  rw [← hending, ← hending'] at hsame
  rw [← hafter, ← hafter'] at halike
  refine ⟨⟨hsame, halike.tree, halike.printed⟩, ?_⟩
  intro low high hlow hhigh hle
  -- both logs are cut out of the entries of the command
  have hentries : run.after.events = passing low (.starting command.name settings.strictDer
      :: command.entries settings run.tree) := by
    rw [hafter, events_carry command settings rfl, Settings.threshold, hlow]
    rfl
  have hentries' : other.after.events = passing high (.starting command.name settings.strictDer
      :: command.entries settings run.tree) := by
    rw [hafter', events_carry command _ rfl, Settings.threshold, hhigh, ← htree,
      ← (command.answer_logLevel higher settings other.tree).2]
    rfl
  have hevents : other.after.events = passing high run.after.events := by
    rw [hentries, hentries', passing_passing hle]
  rw [hevents]
  exact ⟨rfl, List.filter_sublist⟩

/-- **Two runs at two levels** agree, and their logs are as the levels say. -/
theorem AtLevel.agrees (h : run.AtLevel command others level)
    (hother : other.AtLevel command others higher) (htree : other.tree = run.tree) :
    run.Agrees other ∧ run.LogsAt other level higher := by
  have hrun := h.performOn_eq
  have hsecond := hother.performOn_eq
  -- a table need not be the same for both, for it may hold the level; a fault is
  cases htable : run.table with
  | error fault =>
    rw [htable] at hrun
    rw [(table_error_iff htree).mpr htable] at hsecond
    exact agrees_of_idle hrun hsecond htree level higher
  | ok table =>
    rw [htable] at hrun
    cases hothertable : other.table with
    | error fault =>
      rw [(table_error_iff htree).mp hothertable] at htable
      cases htable
    | ok othertable =>
      rw [hothertable] at hsecond
      cases hbeside : Settings.besideLevel others with
      | error problems =>
        simp only [hbeside] at hrun hsecond
        exact agrees_of_idle hrun hsecond htree level higher
      | ok found =>
        obtain ⟨strict, format⟩ := found
        simp only [hbeside] at hrun hsecond
        exact agrees_of_carry ⟨level, strict, format⟩ hrun hsecond htree

/-! ### A level in front of a command line -/

/-- A level that is chosen is the level. -/
theorem atLevel_of_chosen {invocation : Invocation} {text : String}
    (htext : readLevel (.text text) = .ok level)
    (hline : Invocation.read run.line = .ok { invocation with logLevel := some text })
    (hothers : ∀ table, run.table = .ok table → ∀ s, s ≠ .logLevel →
      Settings.given (run.sources invocation table) s = others s) :
    run.AtLevel invocation.command others level := by
  refine ⟨_, hline, rfl, fun table htable => ⟨?_, fun s hs => ?_⟩⟩
  · rw [Settings.one, Settings.given, sources, List.findSome?_cons,
      Invocation.ofChoices_choices]
    simp only [Option.map_some, htext]
  · have hchoices : Source.ofChoices { invocation with logLevel := some text }.choices s
        = Source.ofChoices invocation.choices s := by
      rw [Invocation.ofChoices_choices, Invocation.ofChoices_choices]
      -- the level in front changes no other choice
      cases s with
      | logLevel => exact absurd rfl hs
      | strictDer => rfl
      | outputFormat => rfl
    rw [← hothers table htable s hs]
    simp only [Settings.given, sources, List.findSome?_cons, hchoices]

/-- Nothing is entered when a command line cannot be read. -/
theorem events_of_read_error {stop : Stop Switch} (h : Invocation.read run.line = .error stop) :
    run.after.events = [] := by
  unfold after performOn perform
  rw [h]
  cases stop with
  | final option => rfl
  | misuse program misuse => rfl

end Run

/-- A run with a level in front of its command line. -/
def levelled (line : List String) (tree : FileTree) (environment : List (String × String))
    (text : String) : Run :=
  ⟨"--log-level" :: text :: line, tree, environment⟩

/-- Command lines that are read alike make the same run of it. -/
theorem after_eq_of_read {run other : Run} (hread : Invocation.read other.line
      = Invocation.read run.line) (hbefore : other.before = run.before) :
    other.ending = run.ending ∧ other.after = run.after := by
  unfold Run.ending Run.after performOn perform
  rw [hread, hbefore]
  exact ⟨rfl, rfl⟩

/-- **Two levels in front of a command line.** If the line sets the level itself they do not
matter at all. -/
theorem agrees_levelled {text text' level level' : String} (line : List String) (tree : FileTree)
    (environment : List (String × String)) (htext : readLevel (.text text) = .ok level)
    (htext' : readLevel (.text text') = .ok level') :
    let run := levelled line tree environment
    (run text).Agrees (run text')
      ∧ (Invocation.SetsLevel line → (run text').after = (run text).after)
      ∧ (¬ Invocation.SetsLevel line → (run text).LogsAt (run text') level level') := by
  intro run
  have hword := isOperand_of_readLevel htext
  have hword' := isOperand_of_readLevel htext'
  -- the line cannot be read, sets the level itself, or leaves it to what stands in front
  rcases Invocation.read_level line with ⟨stop, hread⟩ | ⟨hsets, invocation, hread⟩
    | ⟨hsets, invocation, hread⟩
  · have hstop : Invocation.read (run text).line = .error stop := hread text hword
    have hsame : Invocation.read (run text').line = Invocation.read (run text).line :=
      (hread text' hword').trans hstop.symm
    obtain ⟨hending, hafter⟩ := after_eq_of_read hsame rfl
    refine ⟨⟨hending, by rw [hafter], by rw [hafter]⟩, fun _ => hafter, fun _ => ?_⟩
    intro low high _ _ _
    rw [hafter, Run.events_of_read_error hstop]
    exact ⟨rfl, List.Sublist.refl []⟩
  · have hsame : Invocation.read (run text').line = Invocation.read (run text).line :=
      (hread text' hword').trans (hread text hword).symm
    obtain ⟨hending, hafter⟩ := after_eq_of_read hsame rfl
    refine ⟨⟨hending, by rw [hafter], by rw [hafter]⟩, fun _ => hafter, fun h => ?_⟩
    exact absurd hsets h
  · -- what is given for the other settings is the same for both, if the settings file is a text
    let others : Source := fun s =>
      match (run text).table with
      | .ok table => Settings.given ((run text).sources invocation table) s
      | .error _ => none
    have hothers : ∀ table, (run text).table = .ok table → ∀ s, s ≠ .logLevel →
        Settings.given ((run text).sources invocation table) s = others s := by
      intro table htable s _
      simp only [others, htable]
    have hlevel : (run text).AtLevel invocation.command others level :=
      Run.atLevel_of_chosen htext (hread text hword) hothers
    have hlevel' : (run text').AtLevel invocation.command others level' :=
      Run.atLevel_of_chosen htext' (hread text' hword') hothers
    obtain ⟨hagrees, hlogs⟩ := hlevel.agrees hlevel' rfl
    exact ⟨hagrees, fun h => absurd h hsets, fun _ => hlogs⟩

/-! ### The level and the log -/

/-- **The level decides the log and nothing else.** An accepted text comes to a name that is
accepted as it is and has a number. Two runs that carry out the same command on the same files,
with the same values for the other settings, agree but for the log, and so do two runs with
accepted levels in front of any command line. The log at the higher level is what passes of the
log at the lower one, so at any level it is what passes of all entries, which are those at
`NOTSET`. -/
theorem level_decides_log_only :
    (∀ text level, readLevel (.text text) = .ok level →
      readLevel (.text level) = .ok level
      ∧ ∃ n, thresholds.lookup level = some n ∧ thresholdOf level = .ok n)
    ∧ (∀ (run other : Run) command others level higher, other.tree = run.tree →
      run.AtLevel command others level → other.AtLevel command others higher →
        run.Agrees other ∧ run.LogsAt other level higher)
    ∧ ∀ line tree environment text level text' level',
      readLevel (.text text) = .ok level → readLevel (.text text') = .ok level' →
        let run := levelled line tree environment
        (run text).Agrees (run text')
          ∧ (Invocation.SetsLevel line → (run text').after = (run text).after)
          ∧ (¬ Invocation.SetsLevel line → (run text).LogsAt (run text') level level') := by
  refine ⟨?_, ?_, ?_⟩
  · intro text level h
    -- a name in the table is accepted, and its number is its threshold
    obtain ⟨n, hn⟩ := Option.isSome_iff_exists.mp (readLevel_ok_iff.mp h).2
    obtain ⟨hagain, hthreshold⟩ := readLevel_name hn
    exact ⟨hagain, n, hn, hthreshold⟩
  · intro run other command others level higher htree hrun hother
    exact hrun.agrees hother htree
  · intro line tree environment text level text' level' htext htext'
    exact agrees_levelled line tree environment htext htext'

/-- A run without files whose level is in the environment. -/
def exported (text : String) : Run :=
  ⟨["info", "x"], ⟨[]⟩, [("ATTEST_CERT_LOG_LEVEL", text)]⟩

/-- Such a run is at the level that the text comes to. -/
theorem atLevel_exported {text level : String} (htext : readLevel (.text text) = .ok level) :
    (exported text).AtLevel (.info (.ofText "x")) (fun _ => none) level := by
  obtain ⟨refusal, hread⟩ := read_bare settingsPath
  have htable : (exported text).table = .ok [] := by
    show Settings.tableOf _ ((FileTree.mk []).read settingsPath |>.mapError _).toOption = _
    rw [hread]
    rfl
  refine ⟨_, read_info, rfl, fun table hfound => ?_⟩
  rw [htable] at hfound
  cases hfound
  -- of the three names in the environment the level has this one
  have hname : ∀ s : Setting,
      smalls "ATTEST_CERT_LOG_LEVEL" = s.environmentName ↔ s = .logLevel := by
    intro s
    cases s <;> decide
  have hgiven : ∀ s,
      Settings.given ((exported text).sources ⟨none, false, .info (.ofText "x")⟩ []) s
        = if s = .logLevel then some (.text text) else none := by
    intro s
    cases s <;> simp [Settings.given, Run.sources, exported, Source.ofEnvironment, Source.ofTable,
      Invocation.ofChoices_choices, hname]
  refine ⟨?_, fun s hs => ?_⟩
  · rw [Settings.one, hgiven, if_pos rfl]
    simp only [htext]
  · rw [hgiven, if_neg hs]

/-- The line that asks for a report on a file sets no level. -/
theorem not_setsLevel_info : ¬ Invocation.SetsLevel ["info", "x"] := by
  rintro ⟨r, name, rest, hread, hhas⟩
  have hhead : grammar.readHead ["info", "x"] = .ok (.empty, "info", ["x"]) := by cbv
  rw [hhead] at hread
  cases hread
  cases hhas

/-- Warnings only, and everything. -/
theorem level_decides_log_only_warn :
    readLevel (.text " warn ") = .ok "WARN" ∧ readLevel (.text "notset") = .ok "NOTSET"
    ∧ (exported "notset").Agrees (exported " warn ")
    ∧ (exported " warn ").after.events = passing 30 (exported "notset").after.events
    ∧ let run := levelled ["info", "x"] ⟨[]⟩ []
      (run "notset").Agrees (run " warn ")
        ∧ (run " warn ").after.events = passing 30 (run "notset").after.events := by
  have hwarn : readLevel (.text " warn ") = .ok "WARN" := by decide
  have hall : readLevel (.text "notset") = .ok "NOTSET" := by decide
  obtain ⟨-, hruns, hlines⟩ := level_decides_log_only
  obtain ⟨hagrees, hlogs⟩ := hruns (exported "notset") (exported " warn ") _ _ _ _ rfl
    (atLevel_exported hall) (atLevel_exported hwarn)
  obtain ⟨hagrees', -, hlogs'⟩ := hlines ["info", "x"] ⟨[]⟩ [] _ _ _ _ hall hwarn
  exact ⟨hwarn, hall, hagrees, (hlogs 0 30 rfl rfl (by decide)).1, hagrees',
    (hlogs' not_setsLevel_info 0 30 rfl rfl (by decide)).1⟩

end Program
end CertChain
