import CertChain.Proofs.CommandLine.Insertion

/-!
# Command lines that ask for a format

`Invocation.Asks` relates a command line for a conversion and the same line with a format put
behind the name of the command. If there is such a format it is the target, and nothing else is
changed (`Invocation.read_asked`); and otherwise it is a misuse (`Invocation.read_misasked`).

Two things could get in the way. The words that are put there are also words of the line as a
whole, so they must be ones to the grammar in front, too (`Invocation.exists_words_asking`). And
the conversion may ask for a format further behind, which then counts; a line that asks for none
has no such option at all, since what is given is always the name of a format
(`Grammar.value?_of_choice`).
-/

namespace CertChain
namespace CommandLine
namespace Invocation

open Grammar

/-! ### The option -/

/-- The option for the format. -/
def targetRule : Rule Switch := ⟨.target, ["--to"], .choice (Format.all.map Format.name)⟩

/-- What may stand behind the name of a conversion. -/
def convertGrammar : Grammar Switch where
  program := programName ++ " " ++ "convert"
  rules := [helpRule, targetRule, ⟨.output, ["-o", "--output"], .valued⟩]
  operands := ["path"]

/-- A conversion is read by this grammar. -/
theorem grammarOf?_convert : grammarOf? "convert" = some convertGrammar :=
  rfl

/-- **How a format is asked for**: behind the option, or joined to it. -/
inductive Asking (text : String) : List String → Prop where
  | apart : Asking text ["--to", text]
  | joined : Asking text ["--to=" ++ text]

variable {text : String} {asking rest : List String}

/-- The word begins with the option and an equals sign. -/
theorem toList_joined (text : String) :
    ("--to=" ++ text).toList = '-' :: '-' :: 't' :: 'o' :: '=' :: text.toList := by
  rw [String.toList_append]
  rfl

/-- A name without an equals sign is not the word. -/
theorem joined_ne {name : String} (h : '=' ∉ name.toList) : "--to=" ++ text ≠ name := by
  rintro rfl
  rw [toList_joined] at h
  exact h (by simp)

/-- So the word as a whole names no option, if no name has an equals sign. -/
theorem named?_joined {g : Grammar Switch} (h : ∀ rule ∈ g.rules, ∀ name ∈ rule.names,
    '=' ∉ name.toList) (text : String) : g.named? ("--to=" ++ text) = none := by
  rw [named?, List.find?_eq_none]
  intro rule hrule hmem
  have hname := List.contains_iff_mem.mp hmem
  exact joined_ne (h rule hrule _ hname) rfl

/-- Behind the name of the command the word is the option. -/
theorem role_target : convertGrammar.role "--to" = .ok (.option targetRule false none) :=
  rfl

/-- The joined word is the option with the text as its value. -/
theorem role_joined (text : String) : convertGrammar.role ("--to=" ++ text)
    = .ok (.option targetRule false (some ⟨true, text.toList⟩)) := by
  have hnone := named?_joined (g := convertGrammar) (by decide) text
  unfold role
  rw [toList_joined]
  simp only [hnone]
  rfl

/-- In front of the command the option is a word like others. -/
theorem role_joined_front (text : String) : ∃ role, grammar.role ("--to=" ++ text) = .ok role := by
  have hnone := named?_joined (g := grammar) (by decide) text
  refine ⟨.ofOther ("--to=" ++ text).toList, ?_⟩
  unfold role
  rw [toList_joined]
  simp only [hnone]
  rfl

/-! ### A format that there is -/

section Known

variable {f : Format}

/-- No format begins with a dash. -/
theorem head?_name (f : Format) : f.name.toList.head? ≠ some '-' := by
  cases f <;> decide

/-- No format is the word that ends the options. -/
theorem name_ne_separator (f : Format) : f.name ≠ separator := by
  cases f <;> decide

/-- Nor is the joined word. -/
theorem joined_ne_separator (text : String) : "--to=" ++ text ≠ separator :=
  joined_ne (by decide)

/-- Where the option is asked for and the format exists, both are words in front of the command
as well. -/
theorem exists_words_asking (hasking : Asking f.name asking)
    (h : ∃ more, grammar.words rest = .ok more) :
    ∃ more, grammar.words (asking ++ rest) = .ok more := by
  obtain ⟨more, hmore⟩ := h
  -- as two words or as one, which the grammar in front takes for something else
  cases hasking with
  | apart =>
    -- the grammar in front has no such option, and takes the word for an unknown one
    have htarget : grammar.role "--to" = .ok .unknown := rfl
    refine ⟨⟨"--to", .unknown⟩ :: ⟨f.name, .operand⟩ :: more, ?_⟩
    show grammar.words ("--to" :: f.name :: rest) = _
    rw [words_cons _ (by decide) htarget,
      words_cons _ (name_ne_separator f) (role_of_head _ (head?_name f)), hmore]
    rfl
  | joined =>
    obtain ⟨role, hrole⟩ := role_joined_front f.name
    refine ⟨⟨"--to=" ++ f.name, role⟩ :: more, ?_⟩
    show grammar.words (("--to=" ++ f.name) :: rest) = _
    rw [words_cons _ (joined_ne_separator _) hrole, hmore]
    rfl

/-- **A format that there is** is given to the conversion. -/
theorem read_asking {s : Reading Switch} (hasking : Asking f.name asking)
    (h : convertGrammar.read rest = .ok s) :
    convertGrammar.read (asking ++ rest) = .ok (s.after [(.target, some f.name)]) := by
  -- the name of a format is in the list, whichever it is
  have hgive : convertGrammar.give .empty targetRule (some f.name)
      = .ok (Reading.after [(Switch.target, some f.name)] .empty) := by
    cases f <;> rfl
  cases hasking with
  | apart =>
    refine @read_after _ _ _ _ _ [⟨"--to", .option targetRule false none⟩, ⟨f.name, .operand⟩] _ h
      ?_ fun more => ?_
    · show convertGrammar.words ("--to" :: f.name :: rest) = _
      rw [words_cons _ (by decide) role_target,
        words_cons _ (name_ne_separator f) (role_of_head _ (head?_name f))]
      cases convertGrammar.words rest <;> rfl
    · -- a name does not begin with a dash, so it is taken for the value of the option
      have htake : convertGrammar.take .empty (some ⟨f.name, .operand⟩) targetRule false none
          = .ok (Reading.after [(Switch.target, some f.name)] .empty, true) := by
        cases f <;> rfl
      show convertGrammar.scan .empty (⟨"--to", .option targetRule false none⟩
        :: ⟨f.name, .operand⟩ :: more) = _
      rw [scan, List.head?_cons, htake]
      rfl
  | joined =>
    refine @read_after _ _ _ _ _
      [⟨"--to=" ++ f.name, .option targetRule false (some ⟨true, f.name.toList⟩)⟩] _ h ?_
      fun more => ?_
    · show convertGrammar.words (("--to=" ++ f.name) :: rest) = _
      rw [words_cons _ (joined_ne_separator _) (role_joined _)]
      rfl
    · have htake : ∀ next, convertGrammar.take .empty next targetRule false
            (some ⟨true, f.name.toList⟩)
          = .ok (Reading.after [(Switch.target, some f.name)] .empty, false) := by
        intro next
        cases f <;> rfl
      rw [List.singleton_append, scan, htake]
      rfl

end Known

/-! ### A format that there is not -/

/-- The complaint about a text that is no format. -/
def noFormat (text : String) : Misuse :=
  .unknownChoice targetRule.title text (Format.all.map Format.name)

section Unknown

variable (hnone : ∀ f : Format, f.name ≠ text)
include hnone

/-- A text that is no format is not admitted. -/
theorem give_unknown : convertGrammar.give .empty targetRule (some text)
    = .error (convertGrammar.stop (noFormat text)) := by
  -- the list has the names of formats and nothing else
  have hchoice : ¬ (Format.all.map Format.name).contains text = true := by
    intro h
    obtain ⟨f, -, hf⟩ := List.mem_map.mp (List.contains_iff_mem.mp h)
    exact hnone f hf
  unfold give
  simp only [targetRule, if_neg hchoice]
  rfl

/-- The option joined to such a text is refused. -/
theorem take_joined_unknown (next : Option (Word Switch)) :
    convertGrammar.take .empty next targetRule false (some ⟨true, text.toList⟩)
      = .error (convertGrammar.stop (noFormat text)) := by
  show ((convertGrammar.give .empty targetRule (some (String.ofList text.toList)) >>= _) >>= _) = _
  rw [String.ofList_toList, give_unknown hnone]
  rfl

/-- The option with such a text behind it is refused, or lacks a value if the text is no
operand. -/
theorem take_apart_unknown (role : Role Switch) :
    ∃ misuse, convertGrammar.take .empty (some ⟨text, role⟩) targetRule false none
      = .error (convertGrammar.stop misuse) := by
  -- the text counts only as an operand; in any other role the option is without value
  cases role with
  | operand =>
    refine ⟨noFormat text, ?_⟩
    show ((convertGrammar.give .empty targetRule (some text) >>= _) >>= _) = _
    rw [give_unknown hnone]
    rfl
  | separator => exact ⟨_, rfl⟩
  | unknown => exact ⟨_, rfl⟩
  | option rule isShort attached => exact ⟨_, rfl⟩

/-- **A text that is no format** is a misuse of the conversion, whatever else is asked for. -/
theorem read_asking_unknown (hasking : Asking text asking) (rest : List String) :
    ∃ misuse, convertGrammar.read (asking ++ rest) = .error (convertGrammar.stop misuse) := by
  -- a word without a role is a misuse, and so is the option, which is read first
  cases hwords : convertGrammar.words (asking ++ rest) with
  | error misuse =>
    refine ⟨misuse, ?_⟩
    rw [Grammar.read, hwords]
    rfl
  | ok ws =>
    have hscan : ∃ misuse, convertGrammar.scan .empty ws = .error (convertGrammar.stop misuse) := by
      cases hasking with
      | apart =>
        rw [show ["--to", text] ++ rest = "--to" :: text :: rest from rfl,
          words_cons _ (by decide) role_target] at hwords
        obtain ⟨others, hothers, hpure⟩ := bind_ok ((map_eq_pure_bind _ _).symm.trans hwords)
        cases hpure
        -- what stands behind the option is the text, whatever its role may be
        have hnext : ∃ role, others.head? = some ⟨text, role⟩ := by
          rw [words] at hothers
          split at hothers
          · cases hothers
            exact ⟨.separator, rfl⟩
          · obtain ⟨role, -, hmore⟩ := bind_ok hothers
            obtain ⟨more, -, hpure⟩ := bind_ok hmore
            cases hpure
            exact ⟨role, rfl⟩
        obtain ⟨role, hrole⟩ := hnext
        obtain ⟨misuse, htake⟩ := take_apart_unknown hnone role
        refine ⟨misuse, ?_⟩
        rw [scan, hrole, htake]
        rfl
      | joined =>
        rw [List.singleton_append, words_cons _ (joined_ne_separator text) (role_joined text)]
          at hwords
        obtain ⟨others, -, hpure⟩ := bind_ok ((map_eq_pure_bind _ _).symm.trans hwords)
        cases hpure
        refine ⟨noFormat text, ?_⟩
        rw [scan, take_joined_unknown hnone]
        rfl
    obtain ⟨misuse, hmisuse⟩ := hscan
    refine ⟨misuse, ?_⟩
    rw [Grammar.read, hwords]
    show (convertGrammar.scan .empty ws >>= _) = _
    rw [hmisuse]
    rfl

end Unknown

/-! ### The conversion that is asked for -/

/-- A conversion is its path, the format if there is one of that name, and the output. -/
theorem commandOf?_convert_iff {s : Reading Switch} {command : Command} :
    commandOf? "convert" s = some command
      ↔ ∃ path, s.operands = [some path] ∧ command = .convert (.ofText path)
        ((s.value? .target).bind Format.ofName?) ((s.value? .output).map Path.ofText) := by
  unfold commandOf?
  split
  · rename_i hname hoperands
    exact absurd hname (by decide)
  · rename_i hname hoperands
    exact absurd hname (by decide)
  · rename_i path _ hoperands
    rw [hoperands, Option.some.injEq]
    constructor
    · rintro rfl
      exact ⟨path, rfl, rfl⟩
    · rintro ⟨path', hpath, rfl⟩
      cases hpath
      rfl
  · rename_i hname hoperands
    exact absurd hname (by decide)
  · rename_i hconvert _
    constructor
    · rintro ⟨⟩
    · rintro ⟨path, hoperands, -⟩
      exact absurd hoperands (hconvert path rfl)

/-- Only the conversion is a command with a format. -/
theorem name_of_convert {name : String} {s : Reading Switch} {path : Path}
    {format : Option Format} {output : Option Path}
    (h : commandOf? name s = some (.convert path format output)) : name = "convert" := by
  unfold commandOf? at h
  split at h
  · cases h
  · cases h
  · rfl
  · cases h
  · cases h

/-- A conversion without a format is one with the format that is put in front. -/
theorem commandOf?_after {s : Reading Switch} {path : Path} {output : Option Path}
    (hs : convertGrammar.Honest s)
    (h : commandOf? "convert" s = some (.convert path none output)) (f : Format) :
    commandOf? "convert" (s.after [(.target, some f.name)])
      = some (.convert path (some f) output) := by
  obtain ⟨word, hoperands, hcommand⟩ := commandOf?_convert_iff.mp h
  obtain ⟨hpath, htarget, houtput⟩ := Command.convert.inj hcommand
  -- a text that was given would be the name of a format
  have hhas : ¬ s.has .target = true := by
    intro hhas
    have hrules : ∀ rule ∈ convertGrammar.rules, rule.option = Switch.target →
        rule.kind = .choice (Format.all.map Format.name) := by
      decide
    obtain ⟨text, htext, hvalue⟩ := value?_of_choice hs hrules hhas
    obtain ⟨other, -, rfl⟩ := List.mem_map.mp htext
    rw [hvalue, Option.bind_some, Format.ofName?_name] at htarget
    cases htarget
  have hother : ∀ entry ∈ [(Switch.target, some f.name)], entry.1 ≠ Switch.output := by
    intro entry hentry
    rw [List.mem_singleton.mp hentry]
    exact Switch.noConfusion
  refine commandOf?_convert_iff.mpr ⟨word, hoperands, ?_⟩
  have hgiven : (s.after [(.target, some f.name)]).value? .target = some f.name := by
    rw [Reading.value?_after_of_not_has hhas]
    rfl
  rw [Reading.value?_after hother, hgiven, Option.bind_some, Format.ofName?_name, hpath, houtput]

/-- **The same command line, asking for a format** right behind the name of the command. -/
inductive Asks (text : String) : List String → List String → Prop where
  | intro {front rest asking : List String} {r : Reading Switch} (hasking : Asking text asking)
      (hhead : grammar.readHead (front ++ "convert" :: rest) = .ok (r, "convert", rest)) :
      Asks text (front ++ "convert" :: rest) (front ++ "convert" :: (asking ++ rest))

variable {line other : List String}

/-- A conversion can be asked for a format, in both ways. -/
theorem exists_asks {level : Option String} {strict : Bool} {path : Path}
    {format : Option Format} {output : Option Path}
    (h : read line = .ok ⟨level, strict, .convert path format output⟩)
    (hasking : Asking text asking) :
    ∃ front rest, line = front ++ "convert" :: rest
      ∧ Asks text line (front ++ "convert" :: (asking ++ rest)) := by
  -- the line has been read, so its command has a name, and this is where it stands
  obtain ⟨r, name, rest, inner, s, hhead, -, -, -, hcommand, -⟩ := read_ok_iff.mp h
  obtain rfl := name_of_convert hcommand
  obtain ⟨front, rfl⟩ := grammar.exists_front hhead
  exact ⟨front, rest, rfl, .intro hasking hhead⟩

/-- Something stands behind the name of the command then. -/
theorem asking_append_ne_nil (hasking : Asking text asking) : asking ++ rest ≠ [] := by
  cases hasking <;> exact List.cons_ne_nil _ _

/-- **A format that there is** becomes the target, and nothing else is changed. -/
theorem read_asked {level : Option String} {strict : Bool} {path : Path} {output : Option Path}
    {f : Format} (h : read line = .ok ⟨level, strict, .convert path none output⟩)
    (hasks : Asks f.name line other) :
    read other = .ok ⟨level, strict, .convert path (some f) output⟩ := by
  -- what is read of the line is known from its parts, which are read again with the option
  obtain @⟨front, rest, asking, r, hasking, hhead⟩ := hasks
  obtain ⟨_, _, _, inner, s, hhead', hinner, hrest, hleft, hcommand, hlevel, hstrict⟩ :=
    read_ok_iff.mp h
  rw [hhead] at hhead'
  cases hhead'
  rw [grammarOf?_convert] at hinner
  cases hinner
  have hasked := read_asking hasking hrest
  have hcommand' := commandOf?_after (honest_of_read hrest) hcommand f
  rcases grammar.readHead_resume hhead (asking_append_ne_nil hasking) with hother | ⟨hmore, hno⟩
  · exact read_ok_iff.mpr ⟨r, _, _, _, _, hother, grammarOf?_convert, hasked, hleft, hcommand',
      hlevel, hstrict⟩
  · -- both words of the option have a role
    obtain ⟨misuse, hmisuse, -⟩ := hno
    obtain ⟨more, hwords⟩ := exists_words_asking hasking hmore
    rw [hwords] at hmisuse
    cases hmisuse

/-- **A text that is no format** is a misuse. -/
theorem read_misasked (hnone : ∀ f : Format, f.name ≠ text) (hasks : Asks text line other) :
    ∃ program misuse, read other = .error (.misuse program misuse) := by
  obtain @⟨front, rest, asking, r, hasking, hhead⟩ := hasks
  rcases grammar.readHead_resume hhead (asking_append_ne_nil hasking) with
    hother | ⟨-, misuse, -, hother⟩
  · obtain ⟨misuse, hmisuse⟩ := read_asking_unknown hnone hasking rest
    refine ⟨convertGrammar.program, misuse, ?_⟩
    rw [read, hother]
    simp only [bind, Except.bind, grammarOf?_convert, hmisuse]
    rfl
  · exact ⟨_, misuse, read_of_readHead_error hother⟩

end Invocation
end CommandLine
end CertChain
