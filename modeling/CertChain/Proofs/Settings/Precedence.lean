import CertChain.Proofs.Settings
import CertChain.Proofs.Settings.Reference
import CertChain.Proofs.Text.Utf

/-!
# Each setting has its value from the highest place

The places where settings may be given are the choices of the caller, the environment and the
settings file (`Settings.Places`). For each of them it is said when it gives a setting, and
`Settings.Places.Selects` says which value counts: the one that the highest of these places gives,
and none when no place gives one. There is no word of the other settings in it.

The search through the places finds this value (`Settings.Places.given_iff`), and all that is
known about settings follows: what each one comes to, when there are no settings, and that nothing
else in the places matters (`Settings.Places.precedence`). For the last part the names that matter
are kept and all others are taken out. In the environment only the names of settings that the
caller leaves open matter, and in the file only those that the environment leaves open too.
-/

namespace CertChain
namespace Settings

open DotEnv

/-! ### The places -/

/-- **The places where settings may be given.** -/
structure Places where
  invocation : CommandLine.Invocation
  environment : List (String × String)
  /-- The text of the settings file, if there is one. -/
  file : Option String

namespace Places

variable (places : Places)

/-- The bindings in the settings file. -/
def bindings : List Binding :=
  match places.file with
  | none => []
  | some text => DotEnv.bindings text

/-- **The settings** that are loaded. -/
def settings : Except SettingsError Settings :=
  load places.invocation.choices places.environment (places.file.map Bytes.ofText)

/-- The caller chooses a value. There is an option for the level and one for strictness. -/
inductive Chosen : Setting → Datum → Prop
  | logLevel {text : String} (h : places.invocation.logLevel = some text) :
      Chosen .logLevel (.text text)
  | strictDer (h : places.invocation.strictDer = true) : Chosen .strictDer (.bool true)

/-- The environment gives a value. -/
def Exported (s : Setting) (text : String) : Prop :=
  ∃ name, IsLast (fun entry => s.SpelledAs entry.1) places.environment (name, text)

/-- **The value that counts** for a setting: the one from the highest place that gives one. -/
inductive Selects (s : Setting) : Option Datum → Prop
  | choice {value : Datum} (h : places.Chosen s value) : Selects s (some value)
  | environment {text : String} (hchoice : ¬ ∃ value, places.Chosen s value)
      (h : places.Exported s text) : Selects s (some (.text text))
  | file {text : String} (hchoice : ¬ ∃ value, places.Chosen s value)
      (henvironment : ¬ ∃ text, places.Exported s text) (h : Gives places.bindings s text) :
      Selects s (some (.text text))
  | nowhere (hchoice : ¬ ∃ value, places.Chosen s value)
      (henvironment : ¬ ∃ text, places.Exported s text)
      (hfile : ¬ ∃ text, Gives places.bindings s text) : Selects s none

/-- **What a setting comes to**: its value is read, or it is as usual when there is none. -/
def ComesTo {α : Type} (s : Setting) (usual : α) (read : Datum → Except Unsuited α) (a : α) :
    Prop :=
  (places.Selects s none ∧ a = usual) ∨ ∃ value, places.Selects s (some value) ∧ read value = .ok a

end Places

/-- A value is one for a setting. -/
def Suits : Setting → Datum → Prop
  | .logLevel, value => ∃ level, readLevel value = .ok level
  | .strictDer, value => ∃ strict, readTruth value = .ok strict
  | .outputFormat, value => ∃ format, readFormat value = .ok format

namespace Places

/-! ### Each place -/

variable {places : Places} {s : Setting} {value : Datum} {text : String}

/-- What the search finds among the choices is what the caller chooses. -/
theorem chosen_iff :
    Source.ofChoices places.invocation.choices s = some value ↔ places.Chosen s value := by
  rw [CommandLine.Invocation.ofChoices_choices]
  constructor
  · intro h
    -- no option chooses the format
    cases s with
    | logLevel =>
      obtain ⟨text, hlevel, rfl⟩ := Option.map_eq_some_iff.mp h
      exact .logLevel hlevel
    | strictDer =>
      obtain ⟨hstrict, rfl⟩ : places.invocation.strictDer = true ∧ Datum.bool true = value := by
        simpa using h
      exact .strictDer hstrict
    | outputFormat => cases h
  · intro h
    cases h with
    | logLevel h => exact Option.map_eq_some_iff.mpr ⟨_, h, rfl⟩
    | strictDer h => exact if_pos h

/-- What it finds in the environment is the last value of a spelling. -/
theorem exported_iff : Source.ofEnvironment places.environment s = some value
    ↔ ∃ text, value = .text text ∧ places.Exported s text := by
  unfold Source.ofEnvironment Exported
  simp only [isLast_iff, Option.map_eq_some_iff, Prod.exists]
  constructor
  · rintro ⟨name, text, hfind, rfl⟩
    exact ⟨text, rfl, name, hfind⟩
  · rintro ⟨text, rfl, name, hfind⟩
    exact ⟨name, text, hfind, rfl⟩

/-- It goes on behind the choices exactly if the caller leaves the setting open. -/
theorem not_chosen_iff : Source.ofChoices places.invocation.choices s = none
    ↔ ¬ ∃ value, places.Chosen s value := by
  simp only [Option.eq_none_iff_forall_ne_some, ne_eq, chosen_iff, not_exists]

/-- It goes on behind the environment exactly if that has no spelling of the name. -/
theorem not_exported_iff : Source.ofEnvironment places.environment s = none
    ↔ ¬ ∃ text, places.Exported s text := by
  simp only [Option.eq_none_iff_forall_ne_some, ne_eq, exported_iff]
  grind

/-- It finds nothing in the file exactly if the file gives nothing. -/
theorem not_gives_iff {bs : List Binding} (environment : List (String × String))
    (hplain : Plain bs) :
    Source.ofTable (resolve environment bs) s = none ↔ ¬ ∃ text, Gives bs s text := by
  simp only [Option.eq_none_iff_forall_ne_some, ne_eq, ofTable_resolve_iff environment hplain]
  grind

/-! ### The value that counts -/

/-- The places as they are searched. -/
def sources (places : Places) : List Source :=
  [.ofChoices places.invocation.choices, .ofEnvironment places.environment,
    .ofTable (resolve places.environment places.bindings)]

/-- **The search through the places** finds the value that counts. -/
theorem given_iff (hplain : Plain places.bindings) {selected : Option Datum} :
    given places.sources s = selected ↔ places.Selects s selected := by
  rw [given, sources, List.findSome?_cons, List.findSome?_cons, List.findSome?_cons,
    List.findSome?_nil]
  constructor
  · rintro rfl
    -- the first place that gives something ends the search, and the ones before it give nothing
    cases hone : Source.ofChoices places.invocation.choices s with
    | some value => exact .choice (chosen_iff.mp hone)
    | none =>
      have hchoice := not_chosen_iff.mp hone
      cases htwo : Source.ofEnvironment places.environment s with
      | some value =>
        obtain ⟨text, rfl, htext⟩ := exported_iff.mp htwo
        exact .environment hchoice htext
      | none =>
        have henvironment := not_exported_iff.mp htwo
        cases hthree : Source.ofTable (resolve places.environment places.bindings) s with
        | some value =>
          obtain ⟨text, rfl, htext⟩ := (ofTable_resolve_iff _ hplain).mp hthree
          exact .file hchoice henvironment htext
        | none => exact .nowhere hchoice henvironment ((not_gives_iff _ hplain).mp hthree)
  · intro h
    cases h with
    | choice h => rw [chosen_iff.mpr h]
    | environment hchoice h =>
      rw [not_chosen_iff.mpr hchoice, exported_iff.mpr ⟨_, rfl, h⟩]
    | file hchoice henvironment h =>
      rw [not_chosen_iff.mpr hchoice, not_exported_iff.mpr henvironment,
        (ofTable_resolve_iff _ hplain).mpr ⟨_, rfl, h⟩]
    | nowhere hchoice henvironment h =>
      rw [not_chosen_iff.mpr hchoice, not_exported_iff.mpr henvironment,
        (not_gives_iff _ hplain).mpr h]

/-! ### What settings come to -/

/-- The settings file is a text, so there is a table of it. -/
theorem settings_eq : places.settings
    = match ofSources places.sources with
      | .ok settings => .ok settings
      | .error problems => .error (.invalid problems) := by
  -- a text is read back from its octets
  have htable : tableOf places.environment (places.file.map Bytes.ofText)
      = .ok (resolve places.environment places.bindings) := by
    unfold bindings
    cases places.file with
    | none => rfl
    | some text => simp [tableOf, Utf8.decode_ofText]
  rw [settings, load, htable]
  rfl

/-- The settings that are loaded are those of the search. -/
theorem settings_ok_iff {settings : Settings} :
    places.settings = .ok settings ↔ ofSources places.sources = .ok settings := by
  rw [settings_eq]
  cases ofSources places.sources <;> simp

/-- There are none exactly if the search has problems. -/
theorem settings_error_iff : (∃ error, places.settings = .error error)
    ↔ ∃ problems, ofSources places.sources = .error problems := by
  rw [settings_eq]
  cases ofSources places.sources <;> simp

/-- A setting is what the value that counts comes to. -/
theorem one_ok_iff_comesTo {α : Type} (hplain : Plain places.bindings) {usual a : α}
    {read : Datum → Except Unsuited α} :
    one places.sources s usual read = .ok a ↔ places.ComesTo s usual read a := by
  simp only [one_ok_iff, given_iff hplain, ComesTo]

/-- A setting has a problem exactly if the value that counts cannot be read. -/
theorem one_error_iff_selects {α : Type} (hplain : Plain places.bindings) {usual : α}
    {read : Datum → Except Unsuited α} :
    (∃ p, one places.sources s usual read = .error p)
      ↔ ∃ value, places.Selects s (some value) ∧ ¬ ∃ a, read value = .ok a := by
  simp only [one_error_iff, given_iff hplain]

/-- **There are no settings** when a value that counts is none for its setting. -/
theorem settings_error_iff_selects (hplain : Plain places.bindings) :
    (∃ error, places.settings = .error error)
      ↔ ∃ s value, places.Selects s (some value) ∧ ¬ Suits s value := by
  rw [settings_error_iff, ofSources_error_iff, one_error_iff_selects hplain,
    one_error_iff_selects hplain, one_error_iff_selects hplain]
  constructor
  · rintro (⟨value, h⟩ | ⟨value, h⟩ | ⟨value, h⟩)
    · exact ⟨.logLevel, value, h⟩
    · exact ⟨.strictDer, value, h⟩
    · exact ⟨.outputFormat, value, h⟩
  · rintro ⟨s, value, h⟩
    cases s with
    | logLevel => exact .inl ⟨value, h⟩
    | strictDer => exact .inr (.inl ⟨value, h⟩)
    | outputFormat => exact .inr (.inr ⟨value, h⟩)

/-! ### What does not matter -/

/-- A name is left to the environment: it is that of a setting that the caller leaves open. -/
def LeftToEnvironment (places : Places) (name : String) : Prop :=
  ∃ s : Setting, s.SpelledAs name ∧ ¬ ∃ value, places.Chosen s value

/-- A name is left to the settings file: the environment leaves its setting open, too. -/
def LeftToFile (places : Places) (name : String) : Prop :=
  ∃ s : Setting, s.SpelledAs name ∧ (¬ ∃ value, places.Chosen s value)
    ∧ ¬ ∃ text, places.Exported s text

open Classical in
/-- **Places differ only in what is overruled or foreign**: they hold the same choices, and the
same values for names that are left to them. -/
structure Alike (places other : Places) : Prop where
  logLevel : other.invocation.logLevel = places.invocation.logLevel
  strictDer : other.invocation.strictDer = places.invocation.strictDer
  environment : (other.environment.filter fun entry => places.LeftToEnvironment entry.1)
    = places.environment.filter fun entry => places.LeftToEnvironment entry.1
  bindings : (other.bindings.filter fun b => places.LeftToFile b.name)
    = places.bindings.filter fun b => places.LeftToFile b.name

variable {other : Places}

/-- The caller chooses the same. -/
theorem Alike.chosen_iff (h : Alike places other) :
    other.Chosen s value ↔ places.Chosen s value := by
  rw [← Places.chosen_iff, ← Places.chosen_iff, CommandLine.Invocation.ofChoices_choices,
    CommandLine.Invocation.ofChoices_choices, h.logLevel, h.strictDer]

open Classical in
/-- The environment gives the same, where the caller leaves it to the environment. -/
theorem Alike.exported_iff (h : Alike places other) (hchoice : ¬ ∃ value, places.Chosen s value) :
    other.Exported s text ↔ places.Exported s text := by
  -- names that spell an open setting are among those that are kept
  have hkeep : ∀ entry : String × String, s.SpelledAs entry.1 →
      decide (places.LeftToEnvironment entry.1) = true :=
    fun entry hname => decide_eq_true ⟨s, hname, hchoice⟩
  refine exists_congr fun name => ?_
  rw [← IsLast.filter_iff hkeep, h.environment, IsLast.filter_iff hkeep]

open Classical in
/-- The file gives the same, where it is left to the file. -/
theorem Alike.gives_iff (h : Alike places other) (hchoice : ¬ ∃ value, places.Chosen s value)
    (henvironment : ¬ ∃ text, places.Exported s text) :
    Gives other.bindings s text ↔ Gives places.bindings s text := by
  have hkeep : ∀ name, s.SpelledAs name → decide (places.LeftToFile name) = true :=
    fun name hname => decide_eq_true ⟨s, hname, hchoice, henvironment⟩
  rw [← Gives.filter_iff hkeep, h.bindings, Gives.filter_iff hkeep]

/-- The value that counts is the same. -/
theorem Alike.selects (h : Alike places other) {selected : Option Datum}
    (hselects : places.Selects s selected) : other.Selects s selected := by
  -- a place that gives nothing has to give nothing on the other side as well
  cases hselects with
  | choice hchosen => exact .choice (h.chosen_iff.mpr hchosen)
  | environment hchoice hexported =>
    refine .environment ?_ ((h.exported_iff hchoice).mpr hexported)
    simpa only [h.chosen_iff] using hchoice
  | file hchoice henvironment hgives =>
    refine .file ?_ ?_ ((h.gives_iff hchoice henvironment).mpr hgives)
    · simpa only [h.chosen_iff] using hchoice
    · simpa only [h.exported_iff hchoice] using henvironment
  | nowhere hchoice henvironment hfile =>
    refine .nowhere ?_ ?_ ?_
    · simpa only [h.chosen_iff] using hchoice
    · simpa only [h.exported_iff hchoice] using henvironment
    · simpa only [h.gives_iff hchoice henvironment] using hfile

/-- Places that are alike give the same settings. -/
theorem Alike.settings_eq (h : Alike places other) (hplain : Plain places.bindings)
    (hother : Plain other.bindings) : other.settings = places.settings := by
  -- the same values count, so the search finds the same
  have hgiven : ∀ s, given other.sources s = given places.sources s := by
    intro s
    exact (given_iff hother).mpr (h.selects ((given_iff hplain).mp rfl))
  rw [Places.settings_eq, Places.settings_eq, ofSources_congr hgiven]

/-! ### Precedence -/

/-- **Settings come from the highest place, each for itself.** For settings files whose values
refer to nothing, as when no reference opens in their text (`DotEnv.plain_bindings`): exactly one
value counts for a setting, or exactly none; the settings are what each of these comes to,
whatever the others are; there are no settings just when a value that counts is none for its
setting; and places that differ only in what is overruled or foreign give the same. -/
theorem precedence (places : Places) (hplain : Plain places.bindings) :
    (∀ s, ∃! selected, places.Selects s selected)
    ∧ (∀ settings, places.settings = .ok settings
      ↔ places.ComesTo .logLevel "INFO" readLevel settings.logLevel
        ∧ places.ComesTo .strictDer false readTruth settings.strictDer
        ∧ places.ComesTo .outputFormat .pem readFormat settings.outputFormat)
    ∧ ((∃ error, places.settings = .error error)
      ↔ ∃ s value, places.Selects s (some value) ∧ ¬ Suits s value)
    ∧ ∀ other, Alike places other → Plain other.bindings → other.settings = places.settings := by
  refine ⟨?_, ?_, settings_error_iff_selects hplain, ?_⟩
  · intro s
    -- the value that the search finds counts, and no other one does
    refine ⟨given places.sources s, (given_iff hplain).mp rfl, ?_⟩
    intro selected hselected
    exact ((given_iff hplain).mpr hselected).symm
  · intro settings
    rw [settings_ok_iff, ofSources_ok_iff, one_ok_iff_comesTo hplain, one_ok_iff_comesTo hplain,
      one_ok_iff_comesTo hplain]
  · intro other halike hother
    exact halike.settings_eq hplain hother

/-! ### A file that is overruled -/

/-- A line with a format. -/
def formatLine : String :=
  "ATTEST_CERT_OUTPUT_FORMAT='der'"

/-- A strict caller. The environment says something that is no truth value, and the settings file
something that is no level. -/
def crowded : Places where
  invocation := ⟨none, true, .identify (.ofText "x")⟩
  environment := [("ATTEST_CERT_STRICT_DER", "maybe"), ("attest_cert_log_level", " debug ")]
  file := some ("ATTEST_CERT_LOG_LEVEL=loud\n" ++ formatLine)

/-- The same without what is overruled, and with a name that is none of a setting. -/
def cleared : Places where
  invocation := ⟨none, true, .identify (.ofText "y")⟩
  environment := [("attest_cert_log_level", " debug "), ("HOME", "/root")]
  file := some formatLine

/-- The line of the format is a binding, read character by character. -/
theorem bindingsFrom_formatLine :
    bindingsFrom formatLine.toList = [⟨"ATTEST_CERT_OUTPUT_FORMAT", some "der"⟩] := by
  have hline : scanLine.run (formatLine.toList.dropWhile isBlank)
      = .ok (some ⟨"ATTEST_CERT_OUTPUT_FORMAT", some "der"⟩, []) := by rfl
  rw [bindingsFrom_cons hline (by decide), bindingsFrom_nil]

/-- The file that is left has one binding. -/
theorem bindings_cleared : cleared.bindings = [⟨"ATTEST_CERT_OUTPUT_FORMAT", some "der"⟩] := by
  have hlines : withLineFeeds formatLine.toList = formatLine.toList := by rfl
  exact (bindings_of_lines hlines (by decide)).trans bindingsFrom_formatLine

/-- The file that is overruled has two. -/
theorem bindings_crowded : crowded.bindings
    = [⟨"ATTEST_CERT_LOG_LEVEL", some "loud"⟩, ⟨"ATTEST_CERT_OUTPUT_FORMAT", some "der"⟩] := by
  have hlines : withLineFeeds ("ATTEST_CERT_LOG_LEVEL=loud\n" ++ formatLine).toList
      = ("ATTEST_CERT_LOG_LEVEL=loud\n" ++ formatLine).toList := by rfl
  have hline : scanLine.run
        (("ATTEST_CERT_LOG_LEVEL=loud\n" ++ formatLine).toList.dropWhile isBlank)
      = .ok (some ⟨"ATTEST_CERT_LOG_LEVEL", some "loud"⟩, formatLine.toList) := by rfl
  refine (bindings_of_lines hlines (by decide)).trans ?_
  rw [bindingsFrom_cons hline (by decide), bindingsFrom_formatLine]

/-- The caller decides strictness and nothing else. -/
theorem not_chosen_crowded {s : Setting} (hs : s ≠ .strictDer) :
    ¬ ∃ value, crowded.Chosen s value := by
  rintro ⟨value, h⟩
  cases h with
  | logLevel h => cases h
  | strictDer h => exact hs rfl

/-- The environment gives a level, under a name in small letters. -/
theorem exported_crowded : crowded.Exported .logLevel " debug " :=
  ⟨"attest_cert_log_level", [("ATTEST_CERT_STRICT_DER", "maybe")], [], rfl, by decide, nofun⟩

/-- The environment says nothing of the format. -/
theorem not_exported_crowded : ¬ ∃ text, crowded.Exported .outputFormat text := by
  rintro ⟨text, name, before, after, hsplit, hname, -⟩
  have hmem : (name, text) ∈ crowded.environment := by
    rw [hsplit]
    exact List.mem_append_right before List.mem_cons_self
  have hname : Setting.outputFormat.SpelledAs name := hname
  simp only [crowded, List.mem_cons, Prod.mk.injEq, List.not_mem_nil, or_false] at hmem
  rcases hmem with ⟨rfl, -⟩ | ⟨rfl, -⟩
  · exact absurd hname (by decide)
  · exact absurd hname (by decide)

/-- The file gives the format. -/
theorem gives_crowded : Gives crowded.bindings .outputFormat "der" := by
  rw [bindings_crowded]
  refine ⟨"ATTEST_CERT_OUTPUT_FORMAT", ⟨["ATTEST_CERT_LOG_LEVEL"], [], rfl, by decide, nofun⟩,
    ⟨[⟨"ATTEST_CERT_LOG_LEVEL", some "loud"⟩], [], rfl, rfl, nofun⟩⟩

/-- The two differ only in what is overruled or foreign. -/
theorem alike_crowded : crowded.Alike cleared := by
  -- of the names only the level is left to the environment, and the format to the file
  have hlevel : crowded.LeftToEnvironment "attest_cert_log_level" :=
    ⟨.logLevel, by decide, not_chosen_crowded (by decide)⟩
  have hstrict : ¬ crowded.LeftToEnvironment "ATTEST_CERT_STRICT_DER" := by
    rintro ⟨s, hs, hopen⟩
    cases s with
    | logLevel => exact absurd hs (by decide)
    | strictDer => exact hopen ⟨_, .strictDer rfl⟩
    | outputFormat => exact absurd hs (by decide)
  have hhome : ¬ crowded.LeftToEnvironment "HOME" := by
    rintro ⟨s, hs, -⟩
    cases s <;> exact absurd hs (by decide)
  have hformat : crowded.LeftToFile "ATTEST_CERT_OUTPUT_FORMAT" :=
    ⟨.outputFormat, by decide, not_chosen_crowded (by decide), not_exported_crowded⟩
  have hloud : ¬ crowded.LeftToFile "ATTEST_CERT_LOG_LEVEL" := by
    rintro ⟨s, hs, -, hopen⟩
    cases s with
    | logLevel => exact hopen ⟨_, exported_crowded⟩
    | strictDer => exact absurd hs (by decide)
    | outputFormat => exact absurd hs (by decide)
  have hall : crowded.environment
      = [("ATTEST_CERT_STRICT_DER", "maybe"), ("attest_cert_log_level", " debug ")] := rfl
  have hrest : cleared.environment = [("attest_cert_log_level", " debug "), ("HOME", "/root")] :=
    rfl
  refine ⟨rfl, rfl, ?_, ?_⟩
  · simp [hall, hrest, hlevel, hstrict, hhome]
  · simp [bindings_crowded, bindings_cleared, hformat, hloud]

/-- A strict caller does not care for a word that is no truth value, nor the environment for a
line of the settings file. -/
theorem precedence_crowded :
    Plain crowded.bindings ∧ Plain cleared.bindings ∧ crowded.Alike cleared
      ∧ crowded.settings = .ok ⟨"DEBUG", true, .der⟩ ∧ cleared.settings = crowded.settings := by
  have hplain : Plain crowded.bindings := plain_bindings (not_opens_of_not_mem (by decide))
  have hcleared : Plain cleared.bindings := plain_bindings (not_opens_of_not_mem (by decide))
  obtain ⟨-, hsettings, -, hsame⟩ := precedence crowded hplain
  refine ⟨hplain, hcleared, alike_crowded, (hsettings _).mpr ⟨.inr ?_, .inr ?_, .inr ?_⟩,
    hsame cleared alike_crowded hcleared⟩
  · exact ⟨_, .environment (not_chosen_crowded (by decide)) exported_crowded, by decide⟩
  · exact ⟨_, .choice (.strictDer rfl), rfl⟩
  · exact ⟨_, .file (not_chosen_crowded (by decide)) not_exported_crowded gives_crowded, rfl⟩

end Places
end Settings
end CertChain
