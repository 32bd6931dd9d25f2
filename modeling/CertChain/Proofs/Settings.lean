import CertChain.CommandLine.Invocation
import CertChain.Proofs.Outcome

/-!
# Settings from several places

The value of a setting is the one that the highest place gives, and what a setting comes to
depends on that value alone (`Settings.one_congr`). Settings are found when each of them is.

A caller who chooses strictness takes it out of the hands of the environment and the settings
file. `Settings.ofSources_override` compares the settings with those that were without the
choice: they are the same otherwise, or there are none in either case, or the choice has done
away with the only problem.
-/

namespace CertChain

/-! ### Names of levels -/

/-- A level is read as the name in capitals that it is, without the blanks around it. -/
theorem readLevel_ok_iff {text level : String} :
    readLevel (.text text) = .ok level
      ↔ level = capitals (strip text) ∧ (thresholds.lookup level).isSome = true := by
  unfold readLevel
  constructor
  · intro h
    by_cases hlookup : (thresholds.lookup (capitals (strip text))).isSome = true
    · simp only [if_pos hlookup, Except.ok.injEq] at h
      subst h
      exact ⟨rfl, hlookup⟩
    · simp only [if_neg hlookup] at h
      cases h
  · rintro ⟨rfl, hlookup⟩
    simp only [if_pos hlookup]

/-- A level that has a number is one of the names in the table. -/
theorem mem_thresholds {level : String} (h : (thresholds.lookup level).isSome = true) :
    level ∈ thresholds.map Prod.fst := by
  obtain ⟨entry, hmem, hname⟩ := List.lookup_isSome_iff.mp h
  rw [eq_of_beq hname]
  exact List.mem_map_of_mem hmem

/-- **The names of levels** are read as themselves, and stand for their numbers. -/
theorem readLevel_name {level : String} {n : Nat} (h : thresholds.lookup level = some n) :
    readLevel (.text level) = .ok level ∧ thresholdOf level = .ok n := by
  -- the names in the table are in capitals and without blanks, and none is reserved
  have hnames : ∀ level ∈ thresholds.map Prod.fst, capitals (strip level) = level
      ∧ capitals level = level ∧ (reservedNames.lookup level).isNone = true := by
    decide
  have hsome : (thresholds.lookup level).isSome = true := by
    rw [h]
    rfl
  obtain ⟨hstrip, hcapitals, hreserved⟩ := hnames level (mem_thresholds hsome)
  refine ⟨readLevel_ok_iff.mpr ⟨hstrip.symm, hsome⟩, ?_⟩
  simp only [thresholdOf, hcapitals, Option.isNone_iff_eq_none.mp hreserved, h, Option.getD_some]

/-! ### One setting -/

namespace Settings

variable {α : Type} {sources others : List Source} {s : Setting}

/-- A setting depends on the value that the highest place gives, and on nothing else. -/
theorem one_congr (h : given sources s = given others s) (usual : α)
    (read : Datum → Except Unsuited α) : one sources s usual read = one others s usual read := by
  unfold one
  rw [h]

/-- A problem is a problem with the setting that was looked at. -/
theorem setting_of_one {usual : α} {read : Datum → Except Unsuited α} {p : Problem}
    (h : one sources s usual read = .error p) : p.setting = s := by
  unfold one at h
  split at h
  · cases h
  · split at h
    · cases h
    · cases h
      rfl

/-- **One setting** is as usual when it is not given, and as its value is read when it is. -/
theorem one_ok_iff {usual a : α} {read : Datum → Except Unsuited α} :
    one sources s usual read = .ok a
      ↔ (given sources s = none ∧ a = usual)
        ∨ ∃ value, given sources s = some value ∧ read value = .ok a := by
  unfold one
  cases given sources s with
  | none => simp [eq_comm]
  | some value => cases hread : read value <;> simp [hread]

/-- A setting has a problem exactly if the value that is given cannot be read. -/
theorem one_error_iff {usual : α} {read : Datum → Except Unsuited α} :
    (∃ p, one sources s usual read = .error p)
      ↔ ∃ value, given sources s = some value ∧ ¬ ∃ a, read value = .ok a := by
  unfold one
  cases given sources s with
  | none => simp
  | some value => cases hread : read value <;> simp [hread]

/-! ### All settings -/

/-- Settings are found when each of them is. -/
theorem ofSources_ok_iff {settings : Settings} :
    ofSources sources = .ok settings
      ↔ one sources .logLevel "INFO" readLevel = .ok settings.logLevel
        ∧ one sources .strictDer false readTruth = .ok settings.strictDer
        ∧ one sources .outputFormat .pem readFormat = .ok settings.outputFormat := by
  -- there are eight cases, and the settings are there in one of them
  obtain ⟨level, strict, format⟩ := settings
  unfold ofSources
  cases one sources .logLevel "INFO" readLevel <;>
    cases one sources .strictDer false readTruth <;>
      cases one sources .outputFormat .pem readFormat <;> simp

/-- There are no settings when there is a problem with one of them. -/
theorem ofSources_error_iff :
    (∃ problems, ofSources sources = .error problems)
      ↔ (∃ p, one sources .logLevel "INFO" readLevel = .error p)
        ∨ (∃ p, one sources .strictDer false readTruth = .error p)
        ∨ ∃ p, one sources .outputFormat .pem readFormat = .error p := by
  unfold ofSources
  cases one sources .logLevel "INFO" readLevel <;>
    cases one sources .strictDer false readTruth <;>
      cases one sources .outputFormat .pem readFormat <;> simp

/-- Settings are up to the values that the highest places give. -/
theorem ofSources_congr (h : ∀ s, given sources s = given others s) :
    ofSources sources = ofSources others := by
  unfold ofSources
  rw [one_congr (h .logLevel), one_congr (h .strictDer), one_congr (h .outputFormat)]

/-- A problem with the level is reported. -/
theorem ofSources_of_level {p : Problem}
    (h : one sources .logLevel "INFO" readLevel = .error p) :
    ∃ problems, ofSources sources = .error problems ∧ p ∈ problems := by
  refine ⟨p :: (problemOf (one sources .strictDer false readTruth)
    ++ problemOf (one sources .outputFormat .pem readFormat)), ?_, List.mem_cons_self⟩
  unfold ofSources
  rw [h]
  rfl

/-- A problem with the format is reported. -/
theorem ofSources_of_format {p : Problem}
    (h : one sources .outputFormat .pem readFormat = .error p) :
    ∃ problems, ofSources sources = .error problems ∧ p ∈ problems := by
  -- problems are listed in the order of the settings, whichever settings have one
  refine ⟨problemOf (one sources .logLevel "INFO" readLevel)
    ++ problemOf (one sources .strictDer false readTruth) ++ [p], ?_,
    List.mem_append_right _ List.mem_cons_self⟩
  unfold ofSources
  rw [h]
  cases one sources .logLevel "INFO" readLevel with
  | error p => rfl
  | ok level =>
    cases one sources .strictDer false readTruth with
    | error p => rfl
    | ok strict => rfl

/-! ### The places that are searched -/

/-- The places in which a value for a setting is looked for, from the highest to the lowest. -/
def sourcesOf (choices : List (String × Datum)) (environment : List (String × String))
    (table : DotEnv.Table) : List Source :=
  [.ofChoices choices, .ofEnvironment environment, .ofTable table]

section Load

variable {choices : List (String × Datum)} {environment : List (String × String)}
  {file : Option Bytes} {table : DotEnv.Table}

/-- With a settings file that is a text, or without one, the places are searched. -/
theorem load_of_table (htable : tableOf environment file = .ok table) :
    load choices environment file
      = match ofSources (sourcesOf choices environment table) with
        | .ok settings => .ok settings
        | .error problems => .error (.invalid problems) := by
  rw [load, htable]
  rfl

/-- Settings are found when the file is a text and the search finds them. -/
theorem load_ok_iff {settings : Settings} : load choices environment file = .ok settings
    ↔ ∃ table, tableOf environment file = .ok table
      ∧ ofSources (sourcesOf choices environment table) = .ok settings := by
  cases htable : tableOf environment file with
  | error fault => simp [load, htable]
  | ok table =>
    rw [load_of_table htable]
    simp only [Except.ok.injEq, exists_eq_left']
    cases ofSources (sourcesOf choices environment table) <;> simp

/-- Settings are invalid when the file is a text and the search has problems. -/
theorem load_invalid_iff {problems : List Problem} :
    load choices environment file = .error (.invalid problems)
      ↔ ∃ table, tableOf environment file = .ok table
        ∧ ofSources (sourcesOf choices environment table) = .error problems := by
  cases htable : tableOf environment file with
  | error fault => simp [load, htable]
  | ok table =>
    rw [load_of_table htable]
    simp only [Except.ok.injEq, exists_eq_left']
    cases ofSources (sourcesOf choices environment table) <;> simp

/-- The level in settings is a name. -/
theorem exists_lookup_of_load {settings : Settings}
    (h : load choices environment file = .ok settings) :
    ∃ n, thresholds.lookup settings.logLevel = some n := by
  obtain ⟨table, -, hsources⟩ := load_ok_iff.mp h
  -- the usual level is a name, and so is every level that has been read
  rcases one_ok_iff.mp (ofSources_ok_iff.mp hsources).1 with ⟨-, husual⟩ | ⟨value, -, hread⟩
  · rw [husual]
    exact ⟨20, rfl⟩
  · -- of all values that may be given for it only a text can be a level
    cases value with
    | text text => exact Option.isSome_iff_exists.mp (readLevel_ok_iff.mp hread).2
    | null => cases hread
    | bool b => cases hread
    | int n => cases hread
    | list values => cases hread

/-- **The level in settings sets their threshold**, so looking it up is no fault. -/
theorem thresholdOf_of_load {settings : Settings}
    (h : load choices environment file = .ok settings) :
    thresholdOf settings.logLevel = .ok settings.threshold := by
  obtain ⟨n, hn⟩ := exists_lookup_of_load h
  rw [threshold, hn, Option.getD_some]
  exact (readLevel_name hn).2

end Load

/-! ### Strictness -/

/-- **Strictness that is chosen** above other places leaves the other settings as they were.
There are settings all the same, unless there were problems with others. -/
theorem ofSources_override {first second : Source} (below : List Source)
    (hother : ∀ s, s ≠ .strictDer → second s = first s)
    (hstrict : second .strictDer = some (.bool true)) :
    (∃ settings, ofSources (first :: below) = .ok settings
      ∧ ofSources (second :: below) = .ok { settings with strictDer := true })
    ∨ (∃ p settings, ofSources (first :: below) = .error [p] ∧ p.setting = .strictDer
      ∧ ofSources (second :: below) = .ok settings)
    ∨ ∃ problems more, ofSources (first :: below) = .error problems
      ∧ (∃ p ∈ problems, p.setting ≠ .strictDer)
      ∧ ofSources (second :: below) = .error more := by
  have hgiven : ∀ s, s ≠ .strictDer → given (second :: below) s = given (first :: below) s := by
    intro s hs
    rw [given, given, List.findSome?_cons, List.findSome?_cons, hother s hs]
  have hlevel := hgiven .logLevel (by decide)
  have hformat := hgiven .outputFormat (by decide)
  have htrue : one (second :: below) .strictDer false readTruth = .ok true := by
    rw [one, given, List.findSome?_cons, hstrict]
    rfl
  -- level and format come to the same in both cases, and strictness to true in the second
  cases hone : one (first :: below) .logLevel "INFO" readLevel with
  | error p =>
    have hunlike : p.setting ≠ .strictDer := by
      rw [setting_of_one hone]
      decide
    obtain ⟨problems, hfirst, hmem⟩ := ofSources_of_level hone
    rw [← one_congr hlevel] at hone
    obtain ⟨more, hunlikes, -⟩ := ofSources_of_level hone
    exact .inr (.inr ⟨problems, more, hfirst, ⟨p, hmem, hunlike⟩, hunlikes⟩)
  | ok level =>
    cases htwo : one (first :: below) .outputFormat .pem readFormat with
    | error p =>
      have hunlike : p.setting ≠ .strictDer := by
        rw [setting_of_one htwo]
        decide
      obtain ⟨problems, hfirst, hmem⟩ := ofSources_of_format htwo
      rw [← one_congr hformat] at htwo
      obtain ⟨more, hunlikes, -⟩ := ofSources_of_format htwo
      exact .inr (.inr ⟨problems, more, hfirst, ⟨p, hmem, hunlike⟩, hunlikes⟩)
    | ok format =>
      have hunlikes : ofSources (second :: below) = .ok ⟨level, true, format⟩ := by
        unfold ofSources
        rw [one_congr hlevel, one_congr hformat, htrue, hone, htwo]
      -- nothing else is wrong, so it is all up to the value for strictness
      cases hthree : one (first :: below) .strictDer false readTruth with
      | error p =>
        refine .inr (.inl ⟨p, _, ?_, setting_of_one hthree, hunlikes⟩)
        unfold ofSources
        rw [hone, htwo, hthree]
        rfl
      | ok strict =>
        refine .inl ⟨⟨level, strict, format⟩, ?_, hunlikes⟩
        unfold ofSources
        rw [hone, htwo, hthree]

/-! ### The settings file -/

/-- Only a settings file that is no text cannot be looked at. -/
theorem tableOf_error_iff {environment : List (String × String)} {file : Option Bytes}
    {fault : Utf8.Fault} : tableOf environment file = .error fault
      ↔ ∃ content, file = some content ∧ Utf8.decode content = .error fault := by
  cases file with
  | none =>
    constructor
    · intro h
      cases h
    · rintro ⟨content, h, -⟩
      cases h
  | some content =>
    -- a text is scanned to its end in any case, so the decoding is all that can fail
    rw [tableOf, bind_error_iff]
    constructor
    · rintro (h | ⟨text, -, h⟩)
      · exact ⟨content, rfl, h⟩
      · cases h
    · rintro ⟨content', h, hdecode⟩
      cases h
      exact .inl hdecode

/-- **There are no settings because a file is no text**, whatever else is given. -/
theorem load_notText_iff {choices : List (String × Datum)} {environment : List (String × String)}
    {file : Option Bytes} {fault : Utf8.Fault} :
    load choices environment file = .error (.notText fault)
      ↔ tableOf environment file = .error fault := by
  rw [load]
  cases tableOf environment file with
  | error found => rw [Except.error.injEq, SettingsError.notText.injEq, Except.error.injEq]
  | ok table =>
    constructor
    · intro h
      simp only at h
      split at h
      · cases h
      · cases h
    · intro h
      cases h

end Settings

/-! ### The choices of a caller -/

namespace CommandLine.Invocation

/-- **What a caller chooses**, setting by setting. -/
theorem ofChoices_choices (i : Invocation) (s : Setting) :
    Source.ofChoices i.choices s
      = match s with
        | .logLevel => i.logLevel.map Datum.text
        | .strictDer => if i.strictDer then some (.bool true) else none
        | .outputFormat => none := by
  obtain ⟨logLevel, strictDer, command⟩ := i
  have hnames : smalls "log_level" = "log_level" ∧ smalls "strict_der" = "strict_der" := by
    decide
  -- there are four lists of choices, and in each of them every setting is looked up
  cases logLevel <;> cases strictDer <;> cases s <;>
    simp [Source.ofChoices, choices, Setting.name, hnames, List.lookup_cons]

end CommandLine.Invocation
end CertChain
