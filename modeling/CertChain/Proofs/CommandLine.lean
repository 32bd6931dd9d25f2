import CertChain.CommandLine.Invocation
import CertChain.Proofs.Outcome

/-!
# Options in front of a command line

What is read of a command line is added up from the left, so options that have been given
already go in front of all that is found later, and nothing else comes of them:
`Grammar.scanHead_after` carries them through the reading of every word. What is read in front of
the command decides what the caller chooses, and nothing else (`Invocation.read_of_readHead`).

The option for strictness is a word of its own. In front of a command line it chooses
strictness, and the rest is read as if it were not there, with the same command, the same
level for the log and the same complaints (`Invocation.read_strictly`). The option for the level
takes the word behind it along. In front of a command line it chooses the level, unless the line
itself does (`Invocation.read_level`).

A command line without options in front is what is behind the name of its command
(`Invocation.read_of_command`).
-/

namespace CertChain
namespace CommandLine

namespace Grammar

variable {σ : Type} (g : Grammar σ) (given : List (σ × Option String))

/-! ### Options that have been given already -/

/-- What is read when these options have been given before. -/
def Reading.after (r : Reading σ) : Reading σ :=
  { r with given := given ++ r.given }

/-- What is given for other options is no value of this one. -/
theorem Reading.value?_after [DecidableEq σ] {given : List (σ × Option String)} {option : σ}
    (h : ∀ entry ∈ given, entry.1 ≠ option) (r : Reading σ) :
    (r.after given).value? option = r.value? option := by
  -- the search from the end passes over all that has been given before
  have hnone : given.reverse.find? (fun entry => entry.1 = option) = none := by
    rw [List.find?_eq_none]
    intro entry hmem
    simpa using h entry (List.mem_reverse.mp hmem)
  unfold value? after
  rw [List.reverse_append, List.find?_append, hnone, Option.or_none]

section Values

variable [DecidableEq σ] {g} {given} {option : σ} {r : Reading σ}

/-- An option is given exactly if it is found from the end. -/
theorem Reading.has_iff :
    r.has option = true ↔ (r.given.reverse.find? fun entry => entry.1 = option).isSome = true := by
  unfold has
  rw [List.any_eq_true, List.find?_isSome]
  simp only [List.mem_reverse]

/-- The last value counts. -/
theorem Reading.value?_after_of_has (h : r.has option = true) :
    (r.after given).value? option = r.value? option := by
  obtain ⟨entry, hentry⟩ := Option.isSome_iff_exists.mp (has_iff.mp h)
  unfold value? after
  rw [List.reverse_append, List.find?_append, hentry, Option.some_or]

/-- Without a value of its own the option has the last one that was given before. -/
theorem Reading.value?_after_of_not_has (h : ¬ r.has option = true) :
    (r.after given).value? option = (given.reverse.find? fun entry => entry.1 = option).bind
      Prod.snd := by
  have hnone := Option.not_isSome_iff_eq_none.mp (mt has_iff.mpr h)
  unfold value? after
  rw [List.reverse_append, List.find?_append, hnone, Option.none_or]

end Values

/-- Words that are left over do not touch what is given. -/
theorem foldl_leave_after (words : List String) (r : Reading σ) :
    words.foldl Reading.leave (r.after given) = (words.foldl Reading.leave r).after given := by
  induction words generalizing r with
  | nil => rfl
  | cons word rest ih => exact ih (r.leave word)

/-- An option is added behind all that was given before, and admitted or refused alike. -/
theorem give_after (r : Reading σ) (rule : Rule σ) (value : Option String) :
    g.give (r.after given) rule value = Reading.after given <$> g.give r rule value := by
  have hgiven : ∀ value : Option String,
      ({ r.after given with given := (r.after given).given ++ [(rule.option, value)] } : Reading σ)
        = Reading.after given { r with given := r.given ++ [(rule.option, value)] } := by
    intro value
    simp only [Reading.after, List.append_assoc]
  obtain ⟨option, names, kind⟩ := rule
  cases kind with
  | final => rfl
  | plain => exact congrArg Except.ok (hgiven value)
  | valued => exact congrArg Except.ok (hgiven value)
  | choice values =>
    cases value with
    | none => exact congrArg Except.ok (hgiven none)
    | some value =>
      unfold give
      by_cases h : values.contains value = true
      · simp only [if_pos h]
        exact congrArg Except.ok (hgiven (some value))
      · simp only [if_neg h]
        rfl

/-- The same of several options. -/
theorem foldlM_give_after (entries : List (Rule σ × Option String)) (r : Reading σ) :
    entries.foldlM (fun r (rule, value) => g.give r rule value) (r.after given)
      = Reading.after given <$> entries.foldlM (fun r (rule, value) => g.give r rule value) r := by
  induction entries generalizing r with
  | nil => rfl
  | cons entry rest ih =>
    obtain ⟨rule, value⟩ := entry
    rw [List.foldlM_cons, List.foldlM_cons, map_bind]
    -- an option that is refused is refused in either case
    simp only [give_after, bind_map_left]
    exact bind_congr ih

/-- An option takes the same words, whatever was given before. -/
theorem take_after (r : Reading σ) (next : Option (Word σ)) (rule : Rule σ) (isShort : Bool)
    (attached : Option Attached) :
    g.take (r.after given) next rule isShort attached
      = Prod.map (Reading.after given) id <$> g.take r next rule isShort attached := by
  -- how the word is spelled out does not depend on what was read before
  unfold take
  simp only [foldl_leave_after, foldlM_give_after, bind_map_left, map_bind]
  rfl

/-- **Options that have been given** stay in front, whatever words are read. -/
theorem scanHead_after (ws : List (Word σ)) (r : Reading σ) :
    g.scanHead (r.after given) ws = Prod.map (Reading.after given) id <$> g.scanHead r ws := by
  -- the cases are those of the reading itself
  induction r, ws using scanHead.induct with
  | case1 r =>
    simp only [scanHead]
    rfl
  | case2 r text rest ih =>
    simp only [scanHead]
    exact ih
  | case3 r text rule isShort attached rest ih =>
    simp only [scanHead, take_after, bind_map_left, map_bind]
    exact bind_congr fun taken => ih taken.1 taken.2
  | case4 r bar =>
    simp only [scanHead]
    rfl
  | case5 r ws hnil hunknown hoption hseparator =>
    simp only [scanHead]
    rfl

/-! ### A word in front of a command line -/

/-- The first operand ends the reading of what is in front. -/
theorem scanHead_operand (r : Reading σ) (word : String) (rest : List (Word σ)) :
    g.scanHead r (⟨word, .operand⟩ :: rest) = .ok (r, word :: rest.map Word.text) := by
  simp [scanHead]

/-- Words that fill all operands are read. -/
theorem read_of_scan {line : List String} {words : List (Word σ)} {r : Reading σ}
    (hwords : g.words line = .ok words) (hscan : g.scan .empty words = .ok r)
    (hfull : g.isOpen r = false) : g.read line = .ok r := by
  rw [read, hwords]
  show (g.scan .empty words >>= _) = _
  simp only [hscan, bind, Except.bind, hfull]
  rfl

theorem mapError_map {ε ε' α β : Type} (complain : ε → ε') (f : α → β) (x : Except ε α) :
    (f <$> x).mapError complain = f <$> x.mapError complain := by
  cases x with
  | error e => rfl
  | ok a => rfl

/-- A word that is an option goes in front of the words behind it. -/
theorem words_cons {word : String} {role : Role σ} (hword : word ≠ separator)
    (hrole : g.role word = .ok role) (line : List String) :
    g.words (word :: line) = (⟨word, role⟩ :: ·) <$> g.words line := by
  rw [words, if_neg hword, hrole]
  rfl

/-- A word without a dash in front is an operand. -/
theorem role_of_head {word : String} (h : word.toList.head? ≠ some '-') :
    g.role word = .ok .operand := by
  unfold role
  split
  · rename_i second rest hword
    rw [hword] at h
    exact absurd rfl h
  · rfl

end Grammar

namespace Invocation

open Grammar

variable {line other : List String} {given : List (Switch × Option String)}

/-! ### Options in front of a command line -/

/-- Words in front that come to options are options in front. -/
theorem readHead_after (front : List String) (words : List (Word Switch))
    (hwords : grammar.words (front ++ line) = (words ++ ·) <$> grammar.words line)
    (hscan : ∀ rest, grammar.scanHead .empty (words ++ rest)
      = Prod.map (Reading.after given) id <$> grammar.scanHead .empty rest) :
    grammar.readHead (front ++ line)
      = Prod.map (Reading.after given) id <$> grammar.readHead line := by
  unfold readHead
  rw [hwords, mapError_map]
  simp only [hscan, bind_map_left, map_bind]
  refine bind_congr fun words => bind_congr fun scanned => ?_
  -- there is a command behind the options, or it is missing in either case
  obtain ⟨r, rest⟩ := scanned
  cases rest with
  | nil => rfl
  | cons first rest => rfl

/-- What goes wrong in front of the command is all that comes of a command line. -/
theorem read_of_readHead_error {stop : Stop Switch} (h : grammar.readHead line = .error stop) :
    read line = .error stop := by
  rw [read, h]
  rfl

/-- **What is read in front of the command** decides the choices, and nothing else. -/
theorem read_of_readHead {r r' : Reading Switch} {name : String} {rest : List String}
    (hline : grammar.readHead line = .ok (r, name, rest))
    (hother : grammar.readHead other = .ok (r', name, rest)) (hleft : r'.left = r.left) :
    read other
      = (fun i => ⟨r'.value? .logLevel, r'.has .strictDer, i.command⟩) <$> read line := by
  rw [read, read, hline, hother]
  -- the command is looked up by its name and reads its words by itself, so both lines agree
  cases hinner : grammarOf? name with
  | none =>
    simp only [bind, Except.bind, hinner]
    rfl
  | some inner =>
    simp only [bind, Except.bind, hinner]
    cases inner.read rest with
    | error stop => rfl
    | ok s =>
      simp only [hleft]
      by_cases h : r.left ++ s.left ≠ []
      · rw [if_pos h, if_pos h]
        rfl
      · rw [if_neg h, if_neg h]
        cases commandOf? name s with
        | none => rfl
        | some command => rfl

/-- The choices are those that are read in front of the command. -/
theorem choices_of_read {r : Reading Switch} {name : String} {rest : List String} {i : Invocation}
    (hline : grammar.readHead line = .ok (r, name, rest)) (hread : read line = .ok i) :
    i.logLevel = r.value? .logLevel ∧ i.strictDer = r.has .strictDer := by
  have hsame := read_of_readHead hline hline rfl
  rw [hread] at hsame
  obtain ⟨hlevel, hstrict, -⟩ := Invocation.mk.inj (Except.ok.inj hsame)
  exact ⟨hlevel, hstrict⟩

/-! ### Strictness -/

/-- The option for strictness. -/
def strictRule : Rule Switch := ⟨.strictDer, ["--strict-der"], .plain⟩

/-- The word for strictness is its option. -/
theorem role_strict : grammar.role "--strict-der" = .ok (.option strictRule false none) :=
  rfl

/-- The same invocation, but strictness is chosen. -/
def strictly (i : Invocation) : Invocation :=
  { i with strictDer := true }

/-- Strictness in front goes in front of what is read of the line. -/
theorem readHead_strict (line : List String) :
    grammar.readHead ("--strict-der" :: line)
      = Prod.map (Reading.after [(Switch.strictDer, none)]) id <$> grammar.readHead line := by
  have hseparator : "--strict-der" ≠ separator := by decide
  refine readHead_after ["--strict-der"] [⟨"--strict-der", .option strictRule false none⟩]
    (grammar.words_cons hseparator role_strict line) fun rest => ?_
  have htake : ∀ next, grammar.take .empty next strictRule false none
      = .ok (Reading.after [(Switch.strictDer, none)] .empty, false) := fun next => rfl
  rw [List.singleton_append, scanHead, htake]
  exact grammar.scanHead_after [(Switch.strictDer, none)] rest .empty

/-- **Strictness in front of a command line** is chosen, and nothing else is changed. -/
theorem read_strictly (line : List String) :
    read ("--strict-der" :: line) = strictly <$> read line := by
  -- strictness is no value for the level of the log
  have hother : ∀ entry ∈ [(Switch.strictDer, (none : Option String))],
      entry.1 ≠ Switch.logLevel := by
    decide
  have hhead := readHead_strict line
  -- the line is read up to the command or not, and the option in front changes neither
  cases hline : grammar.readHead line with
  | error stop =>
    rw [hline] at hhead
    rw [read_of_readHead_error hline, read_of_readHead_error hhead]
    rfl
  | ok scanned =>
    obtain ⟨r, name, rest⟩ := scanned
    rw [hline] at hhead
    rw [read_of_readHead hline hhead rfl, Reading.value?_after hother]
    cases hread : read line with
    | error stop => rfl
    | ok i =>
      refine congrArg Except.ok ?_
      rw [strictly, (choices_of_read hline hread).1]
      rfl

/-! ### The level of the log -/

/-- The option for the level of the log. -/
def levelRule : Rule Switch := ⟨.logLevel, ["--log-level"], .valued⟩

/-- The word for the level is its option. -/
theorem role_level : grammar.role "--log-level" = .ok (.option levelRule false none) :=
  rfl

/-- A word that is taken for an operand, and so for the value of an option in front of it. -/
def IsOperand (word : String) : Prop :=
  word ≠ separator ∧ grammar.role word = .ok .operand

/-- A word without a dash in front is an operand. -/
theorem isOperand_of_head {word : String} (h : word.toList.head? ≠ some '-') : IsOperand word := by
  constructor
  · rintro rfl
    exact h rfl
  · exact grammar.role_of_head h

/-- A command line that sets the level of the log itself. -/
def SetsLevel (line : List String) : Prop :=
  ∃ r name rest, grammar.readHead line = .ok (r, name, rest) ∧ r.has .logLevel = true

/-- A level in front goes in front of what is read of the line. -/
theorem readHead_level {text : String} (htext : IsOperand text) (line : List String) :
    grammar.readHead ("--log-level" :: text :: line)
      = Prod.map (Reading.after [(Switch.logLevel, some text)]) id <$> grammar.readHead line := by
  have hseparator : "--log-level" ≠ separator := by decide
  refine readHead_after ["--log-level", text]
    [⟨"--log-level", .option levelRule false none⟩, ⟨text, .operand⟩] ?_ fun rest => ?_
  · show grammar.words ("--log-level" :: text :: line) = _
    rw [grammar.words_cons hseparator role_level, grammar.words_cons htext.1 htext.2]
    cases grammar.words line with
    | error misuse => rfl
    | ok words => rfl
  · have htake : grammar.take .empty (some ⟨text, .operand⟩) levelRule false none
        = .ok (Reading.after [(Switch.logLevel, some text)] .empty, true) := rfl
    show grammar.scanHead .empty (⟨"--log-level", .option levelRule false none⟩
      :: ⟨text, .operand⟩ :: rest) = _
    rw [scanHead, List.head?_cons, htake]
    exact grammar.scanHead_after [(Switch.logLevel, some text)] rest .empty

/-- **A level in front of a command line.** The line cannot be read, whatever the level is; or it
sets the level itself, and the one in front does not matter; or the level is chosen, and nothing
else is changed. -/
theorem read_level (line : List String) :
    (∃ stop, ∀ text, IsOperand text → read ("--log-level" :: text :: line) = .error stop)
    ∨ (SetsLevel line
      ∧ ∃ i : Invocation, ∀ text, IsOperand text →
        read ("--log-level" :: text :: line) = .ok i)
    ∨ (¬ SetsLevel line ∧ ∃ i : Invocation, ∀ text, IsOperand text →
      read ("--log-level" :: text :: line) = .ok { i with logLevel := some text }) := by
  cases hline : grammar.readHead line with
  | error stop =>
    refine .inl ⟨stop, fun text htext => ?_⟩
    have hhead := readHead_level htext line
    rw [hline] at hhead
    exact read_of_readHead_error hhead
  | ok scanned =>
    obtain ⟨r, name, rest⟩ := scanned
    -- the level in front is added to what is read of the line, and decides the rest of it no more
    have hlevel : ∀ text, IsOperand text → read ("--log-level" :: text :: line)
        = (fun i => ⟨(r.after [(Switch.logLevel, some text)]).value? .logLevel, r.has .strictDer,
            i.command⟩) <$> read line := by
      intro text htext
      have hhead := readHead_level htext line
      rw [hline] at hhead
      exact read_of_readHead hline hhead rfl
    cases hread : read line with
    | error stop =>
      refine .inl ⟨stop, fun text htext => ?_⟩
      rw [hlevel text htext, hread]
      rfl
    | ok i =>
      -- of several values for the level the last one counts, and this is the first
      by_cases hhas : r.has .logLevel = true
      · refine .inr (.inl ⟨⟨r, name, rest, hline, hhas⟩, i, fun text htext => ?_⟩)
        rw [hlevel text htext, hread, Reading.value?_after_of_has hhas,
          ← (choices_of_read hline hread).1, ← (choices_of_read hline hread).2]
        rfl
      · refine .inr (.inr ⟨?_, i, fun text htext => ?_⟩)
        · rintro ⟨r', name', rest', hline', hhas'⟩
          rw [hline] at hline'
          cases hline'
          exact hhas hhas'
        · rw [hlevel text htext, hread, Reading.value?_after_of_not_has hhas,
            ← (choices_of_read hline hread).2]
          rfl

/-- **A command line** is read in front of the name of its command and behind it. -/
theorem read_ok_iff {i : Invocation} : read line = .ok i
    ↔ ∃ r name rest inner s, grammar.readHead line = .ok (r, name, rest)
      ∧ grammarOf? name = some inner ∧ inner.read rest = .ok s ∧ r.left ++ s.left = []
      ∧ commandOf? name s = some i.command ∧ i.logLevel = r.value? .logLevel
      ∧ i.strictDer = r.has .strictDer := by
  constructor
  · intro h
    -- each way to go wrong on the way is no success
    obtain ⟨⟨r, name, rest⟩, hline, hmore⟩ := bind_ok h
    obtain ⟨hlevel, hstrict⟩ := choices_of_read hline h
    simp only at hmore
    split at hmore
    · cases hmore
    · rename_i inner hinner
      obtain ⟨s, hrest, hmore⟩ := bind_ok hmore
      split at hmore
      · cases hmore
      · rename_i hleft
        split at hmore
        · cases hmore
        · rename_i command hcommand
          cases hmore
          exact ⟨r, name, rest, inner, s, hline, hinner, hrest, Decidable.not_not.mp hleft,
            hcommand, hlevel, hstrict⟩
  · rintro ⟨r, name, rest, inner, s, hline, hinner, hrest, hleft, hcommand, hlevel, hstrict⟩
    rw [read, hline]
    have hall : ¬ r.left ++ s.left ≠ [] := fun h => h hleft
    obtain ⟨level, strict, command⟩ := i
    obtain rfl : level = r.value? .logLevel := hlevel
    obtain rfl : strict = r.has .strictDer := hstrict
    simp only [bind, Except.bind, hinner, hrest, if_neg hall, hcommand]
    rfl

/-- **A command line that begins with a command** is read behind its name, by the grammar of this
command. -/
theorem read_of_command {name : String} {rest : List String} {words : List (Word Switch)}
    {inner : Grammar Switch} {s : Reading Switch} {command : Command}
    (hwords : grammar.words (name :: rest) = .ok (⟨name, .operand⟩ :: words))
    (hrest : words.map Word.text = rest) (hinner : grammarOf? name = some inner)
    (hread : inner.read rest = .ok s) (hleft : s.left = [])
    (hcommand : commandOf? name s = some command) :
    read (name :: rest) = .ok ⟨none, false, command⟩ := by
  -- in front of the name there is nothing, and so nothing is given
  have hhead : grammar.readHead (name :: rest) = .ok (.empty, name, rest) := by
    rw [readHead, hwords]
    show (grammar.scanHead .empty (⟨name, .operand⟩ :: words) >>= _) = _
    rw [scanHead_operand, hrest]
    rfl
  exact read_ok_iff.mpr ⟨.empty, name, rest, inner, s, hhead, hinner, hread, hleft, hcommand,
    rfl, rfl⟩

end Invocation
end CommandLine
end CertChain
