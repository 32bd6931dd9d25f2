import CertChain.Proofs.Certificate.InHand
import CertChain.Proofs.CommandLine.Target
import CertChain.Proofs.Unsettled

/-!
# Names of formats

The name of a format is looked at in three places: where a text is to be a format
(`Format.parse`), on a command line, and in the settings. Each place has a check of its own, and
what is asked for on the command line or comes from the settings is looked at once more before a
file is converted. `Format.checked_alike` says that it does not matter which check a text meets.
All of them take the two names for what they are, and none takes anything else, whatever its letter
case and whatever blanks are around it.

So the second look never finds anything wrong, and a conversion that asks for no format is the one
that asks for the format in the settings.
-/

namespace CertChain

/-! ### Texts -/

namespace Format

variable {text : String} {f : Format}

/-- A format is found by its name. -/
theorem ofName?_eq_some_iff : ofName? text = some f ↔ f.name = text := by
  constructor
  · intro h
    simpa using List.find?_some h
  · rintro rfl
    exact ofName?_name f

/-- No format is found by a text that is the name of none. -/
theorem ofName?_eq_none_iff : ofName? text = none ↔ ∀ f : Format, f.name ≠ text := by
  simp only [Option.eq_none_iff_forall_ne_some, ne_eq, ofName?_eq_some_iff]

/-- Such a text is a failure where a format is wanted. -/
theorem parse_of_unknown (h : ∀ f : Format, f.name ≠ text) :
    (parse text).FailsWith .unknownFormat := by
  rw [parse, ofName?_eq_none_iff.mpr h]
  exact ⟨_, rfl, rfl⟩

end Format

/-- The name of a format is a value for the setting. -/
theorem readFormat_name (f : Format) : readFormat (.text f.name) = .ok f := by
  rw [readFormat, Format.ofName?_name]

/-- A text that is the name of none is no such value. -/
theorem readFormat_of_unknown {text : String} (h : ∀ f : Format, f.name ≠ text) :
    readFormat (.text text) = .error .notFormat := by
  rw [readFormat, Format.ofName?_eq_none_iff.mpr h]

/-! ### Settings -/

namespace Settings

variable {text : String} {f : Format} {choices : List (String × Datum)}
  {environment : List (String × String)} {file : Option Bytes} {table : DotEnv.Table}

/-- **How the settings are told a format**: by the caller, or in the environment when the caller
says nothing of it. Of several variables that have the name in some letter case the last one
counts. -/
inductive Tells (text : String) : List (String × Datum) → List (String × String) → Prop where
  | argument {choices : List (String × Datum)} {environment : List (String × String)}
      (h : choices.lookup Setting.outputFormat.name = some (.text text)) :
      Tells text choices environment
  | exported {choices : List (String × Datum)} {name : String}
      {before after : List (String × String)}
      (hopen : Source.ofChoices choices .outputFormat = none)
      (hname : smalls name = Setting.outputFormat.environmentName)
      (hlast : ∀ entry ∈ after, smalls entry.1 ≠ Setting.outputFormat.environmentName) :
      Tells text choices (before ++ (name, text) :: after)

/-- What the settings are told is the value that counts. -/
theorem Tells.given (h : Tells text choices environment) (table : DotEnv.Table) :
    given (sourcesOf choices environment table) .outputFormat = some (.text text) := by
  rw [Settings.given, sourcesOf, List.findSome?_cons]
  cases h with
  | argument h =>
    rw [Source.ofChoices, h]
  | exported hopen hname hlast =>
    rename_i name before after
    -- a name behind it would count, but there is none for this setting
    have hnone : after.reverse.find?
        (fun entry => smalls entry.1 = Setting.outputFormat.environmentName) = none := by
      rw [List.find?_eq_none]
      intro entry hentry
      simpa using hlast entry (List.mem_reverse.mp hentry)
    rw [hopen, List.findSome?_cons, Source.ofEnvironment, List.reverse_append, List.reverse_cons,
      List.append_assoc, List.find?_append, hnone, Option.none_or, List.singleton_append,
      List.find?_cons_of_pos (by simpa using hname)]
    rfl

/-- **A format that there is** is found in the settings, unless there are none because of
another setting. -/
theorem exists_load_iff_of_tells (htells : Tells f.name choices environment)
    (htable : tableOf environment file = .ok table) :
    (∃ settings, load choices environment file = .ok settings ∧ settings.outputFormat = f)
      ↔ ¬ ∃ s value, s ≠ .outputFormat ∧ Spoiled (sourcesOf choices environment table) s value := by
  have hgiven := htells.given table
  rw [load_of_table htable]
  constructor
  · rintro ⟨settings, hload, -⟩ ⟨s, value, -, hspoiled⟩
    obtain ⟨problems, hproblems⟩ := ofSources_error_iff_spoiled.mpr ⟨s, value, hspoiled⟩
    rw [hproblems] at hload
    cases hload
  · intro hothers
    cases hsources : ofSources (sourcesOf choices environment table) with
    | error problems =>
      -- the format is not spoiled, so another setting would be
      obtain ⟨s, value, hspoiled⟩ := ofSources_error_iff_spoiled.mp ⟨problems, hsources⟩
      refine absurd ⟨s, value, ?_, hspoiled⟩ hothers
      rintro rfl
      obtain ⟨hvalue, hsuits⟩ := hspoiled
      rw [hgiven] at hvalue
      cases hvalue
      exact hsuits ⟨f, readFormat_name f⟩
    | ok settings =>
      refine ⟨settings, rfl, ?_⟩
      obtain ⟨-, -, hformat⟩ := ofSources_ok_iff.mp hsources
      rw [one, hgiven] at hformat
      simp only [readFormat_name] at hformat
      exact (Except.ok.inj hformat).symm

/-- A text that is no format is a problem. -/
theorem load_of_unknown (hnone : ∀ f : Format, f.name ≠ text)
    (htells : Tells text choices environment) (htable : tableOf environment file = .ok table) :
    ∃ problems, load choices environment file = .error (.invalid problems)
      ∧ ⟨.outputFormat, .notFormat, .text text⟩ ∈ problems := by
  -- the value that counts is looked at, and it is what the problem is about
  have hone : one (sourcesOf choices environment table) .outputFormat .pem readFormat
      = .error ⟨.outputFormat, .notFormat, .text text⟩ := by
    rw [one, htells.given table]
    simp only [readFormat_of_unknown hnone]
  obtain ⟨problems, hproblems, hmem⟩ := ofSources_of_format hone
  refine ⟨problems, ?_, hmem⟩
  rw [load_of_table htable, hproblems]

end Settings

/-! ### Failures of commands -/

namespace Command

variable {strict : Bool} {settings : Settings} {tree : FileTree} {command : Command}
  {path : Path} {f : Failure}

/-- A format that is not told is not an unknown one. -/
theorem NotDetected.code_ne (h : NotDetected strict tree path f) : f.code ≠ .unknownFormat := by
  cases h with
  | unread hread => exact ErrorCode.noConfusion
  | unidentified hread hformat =>
    intro hcode
    rcases Certificate.Decoder.encodingOf_error (d := .any strict) hformat with h | h
    · cases hcode.symm.trans h
    · cases hcode.symm.trans h

/-- Nor is one in which a certificate cannot be read. -/
theorem NotLoaded.code_ne (h : NotLoaded strict tree path f) : f.code ≠ .unknownFormat := by
  cases h with
  | undetected h => exact h.code_ne
  | undecoded hread hformat hdecode =>
    rw [Certificate.Decoder.decode_error hdecode]
    exact ErrorCode.noConfusion

/-- **No stage of a command** asks for a format by its name. -/
theorem Refused.code_ne (h : Refused settings tree command f) : f.code ≠ .unknownFormat := by
  -- a check of signatures fails with codes of its own
  cases h with
  | identify h => exact h.code_ne
  | info h => exact h.code_ne
  | convert h => exact h.code_ne
  | signer h => exact h.code_ne
  | signee hfirst h => exact h.code_ne
  | unverified hfirst hsecond h =>
    cases Pair.verdict_of_eq h with
    | keyless => exact ErrorCode.noConfusion
    | rejected => exact ErrorCode.noConfusion
    | refused => exact ErrorCode.noConfusion

end Command

namespace Program

open CommandLine Settings

variable {line other : List String} {level : Option String} {strict : Bool} {path : Path}
  {output : Option Path}

/-- A command that is carried out has no failure of this code. -/
theorem code_ne_of_carry {command : Command} {settings : Settings} {machine : Machine}
    {f : Failure} (h : (carry command settings machine).1 = .failed f) :
    f.code ≠ .unknownFormat := by
  -- the command fails with a fault, at a stage, or when it delivers
  cases hanswer : command.answer settings machine.tree with
  | error fault =>
    rw [carry, hanswer] at h
    cases h
  | ok outcome =>
    cases outcome with
    | error failure =>
      rw [carry, hanswer] at h
      have hending : Ending.ofFailure failure = .failed f := h
      cases Ending.eq_of_ofFailure hending
      exact (Command.answer_error_iff.mp hanswer).code_ne
    | ok delivery =>
      rw [carry, hanswer] at h
      -- what fails in the end is the delivery
      generalize machine.recordAll settings.threshold _ = entered at h
      have hending : endingOf (.ok (delivery.on entered).1) = .failed f := h
      rcases delivery.on_cases entered with ⟨after, hon, -⟩ | ⟨failure, hon, hundelivered⟩
      · rw [hon] at hending
        cases hending
      · rw [hon] at hending
        cases Ending.eq_of_ofFailure hending
        cases hundelivered <;> exact ErrorCode.noConfusion

/-- **No run ends with an unknown format.** -/
theorem code_ne_of_failed {machine : Machine} {f : Failure}
    (h : (performOn line machine).1 = .failed f) : f.code ≠ .unknownFormat := by
  -- a run that does not get as far as a command ends in another way
  cases hline : Invocation.read line with
  | error stop =>
    unfold performOn perform at h
    rw [hline] at h
    cases stop with
    | final option => cases h
    | misuse program misuse => cases h
  | ok invocation =>
    rw [performOn_eq hline] at h
    cases hsettings : settingsOn invocation machine with
    | error reason =>
      rw [hsettings] at h
      cases reason with
      | notText fault => cases h
      | invalid problems => cases h
    | ok settings =>
      rw [hsettings] at h
      exact code_ne_of_carry h

/-- **Asking for the format in the settings** changes nothing, also where there are none. -/
theorem performOn_asked {f : Format} {machine : Machine}
    (h : Invocation.read line = .ok ⟨level, strict, .convert path none output⟩)
    (hsettings : ∀ settings,
      settingsOn ⟨level, strict, .convert path none output⟩ machine = .ok settings →
        settings.outputFormat = f)
    (hasks : Invocation.Asks f.name line other) :
    performOn other machine = performOn line machine := by
  have hother := Invocation.read_asked h hasks
  -- the choices of both command lines are the same
  have hsame : settingsOn ⟨level, strict, .convert path (some f) output⟩ machine
      = settingsOn ⟨level, strict, .convert path none output⟩ machine := rfl
  rw [performOn_eq h, performOn_eq hother, hsame]
  cases hfound : settingsOn ⟨level, strict, .convert path none output⟩ machine with
  | error reason => cases reason <;> rfl
  | ok settings =>
    rw [← hsettings settings hfound]
    rfl

end Program

/-! ### All checks -/

namespace Format

open CommandLine Settings

/-- **A text that is taken for a format** wherever it is looked at: it is that format, the settings
hold it unless something else is wrong with them, and it is the target of a conversion that asks
for it. -/
structure TakenFor (text : String) (f : Format) : Prop where
  parsed : parse text = .ok f
  settled : ∀ {choices environment file table}, Tells text choices environment →
    tableOf environment file = .ok table →
    ((∃ settings, load choices environment file = .ok settings ∧ settings.outputFormat = f)
      ↔ ¬ ∃ s value, s ≠ .outputFormat ∧ Spoiled (sourcesOf choices environment table) s value)
  asked : ∀ {line other level strict path output},
    Invocation.read line = .ok ⟨level, strict, .convert path none output⟩ →
    Invocation.Asks text line other →
    Invocation.read other = .ok ⟨level, strict, .convert path (some f) output⟩

/-- **A text that is taken for no format** anywhere: there is a failure, it is a problem with the
settings, and asking for it is a misuse of the command line. -/
structure TakenForNone (text : String) : Prop where
  parsed : (parse text).FailsWith .unknownFormat
  settled : ∀ {choices environment file table}, Tells text choices environment →
    tableOf environment file = .ok table →
    ∃ problems, load choices environment file = .error (.invalid problems)
      ∧ ⟨.outputFormat, .notFormat, .text text⟩ ∈ problems
  asked : ∀ {line other}, Invocation.Asks text line other →
    ∃ program misuse, Invocation.read other = .error (.misuse program misuse)

/-- The name of a format is taken for it by all checks. -/
theorem takenFor_name (f : Format) : TakenFor f.name f where
  parsed := parse_name f
  settled := exists_load_iff_of_tells
  asked := Invocation.read_asked

/-- Every other text is taken for none by all checks. -/
theorem takenForNone {text : String} (h : ∀ f : Format, f.name ≠ text) : TakenForNone text where
  parsed := parse_of_unknown h
  settled := load_of_unknown h
  asked := Invocation.read_misasked h

/-- **All checks of a format agree.** A text that is the name of a format is taken for this format
by all of them, and any other text is taken for none by any of them. So no run ends with an unknown
format. Every command line for a conversion that asks for no format can be made to ask for one, in
both ways there are, and if this is the format in the settings the run is the same. -/
theorem checked_alike :
    (∀ text : String, (∀ f : Format, f.name = text → TakenFor text f)
      ∧ ((∀ f : Format, f.name ≠ text) → TakenForNone text))
    ∧ (∀ line machine f, (Program.performOn line machine).1 = .failed f →
      f.code ≠ .unknownFormat)
    ∧ ∀ line level strict path output,
      Invocation.read line = .ok ⟨level, strict, .convert path none output⟩ →
      (∀ text asking, Invocation.Asking text asking →
        ∃ front rest, line = front ++ "convert" :: rest
          ∧ Invocation.Asks text line (front ++ "convert" :: (asking ++ rest)))
      ∧ ∀ machine settings other,
        Program.settingsOn ⟨level, strict, .convert path none output⟩ machine = .ok settings →
        Invocation.Asks settings.outputFormat.name line other →
        Program.performOn other machine = Program.performOn line machine := by
  refine ⟨fun text => ⟨?_, takenForNone⟩, fun line machine f => Program.code_ne_of_failed, ?_⟩
  · rintro f rfl
    exact takenFor_name f
  · intro line level strict path output hline
    refine ⟨fun text asking => Invocation.exists_asks hline, ?_⟩
    intro machine settings other hsettings hasks
    refine Program.performOn_asked hline ?_ hasks
    intro found hfound
    rw [hsettings] at hfound
    cases hfound
    rfl

/-- A conversion for which the environment asks for octets, under a name in mixed case. Asking for
them on the command line, too, is the same. In capitals the name is none. -/
theorem checked_alike_octets :
    let environment := [("Attest_Cert_Output_Format", "der")]
    let machine := bareMachine environment
    (∃ settings, load [] environment none = .ok settings ∧ settings.outputFormat = .der)
      ∧ parse "der" = .ok .der
      ∧ Invocation.read ["convert", "--to=der", "x"]
        = .ok ⟨none, false, .convert (.ofText "x") (some .der) none⟩
      ∧ Program.performOn ["convert", "--to=der", "x"] machine
        = Program.performOn ["convert", "x"] machine
      ∧ (∀ f, (Program.performOn ["convert", "x"] machine).1 = .failed f →
        f.code ≠ .unknownFormat)
      ∧ (parse "DER").FailsWith .unknownFormat
      ∧ (∃ problems, load [("output_format", .text "DER")] [] none = .error (.invalid problems)
        ∧ ⟨.outputFormat, .notFormat, .text "DER"⟩ ∈ problems)
      ∧ ∃ program misuse,
        Invocation.read ["convert", "--to", "DER", "x"] = .error (.misuse program misuse) := by
  intro environment machine
  have hline : Invocation.read ["convert", "x"]
      = .ok ⟨none, false, .convert (.ofText "x") none none⟩ := by
    cbv
  have hhead : grammar.readHead ["convert", "x"] = .ok (.empty, "convert", ["x"]) := by
    cbv
  have hasks : ∀ {text asking}, Invocation.Asking text asking →
      Invocation.Asks text ["convert", "x"] ("convert" :: (asking ++ ["x"])) := fun hasking =>
    @Invocation.Asks.intro _ [] _ _ _ hasking hhead
  have hsettings : Program.settingsOn ⟨none, false, .convert (.ofText "x") none none⟩ machine
      = .ok ⟨"INFO", false, .der⟩ := by
    rw [settingsOn_bare]
    rfl
  obtain ⟨hchecks, hnever, hconvert⟩ := checked_alike
  obtain ⟨hder, hdertold, hderasked⟩ := (hchecks "der").1 .der rfl
  obtain ⟨hnone, hnonetold, hnoneasked⟩ := (hchecks "DER").2 fun f => by cases f <;> decide
  refine ⟨?_, hder, hderasked hline (hasks .joined), ?_, fun f => hnever _ machine f, hnone, ?_,
    hnoneasked (hasks .apart)⟩
  -- the name in mixed case is a spelling of the setting
  · have htells : Tells "der" [] environment :=
      @Tells.exported _ _ _ [] [] rfl (by decide) (List.forall_mem_nil _)
    refine (hdertold htells rfl).mpr ?_
    rintro ⟨s, value, hs, hgiven, -⟩
    cases s with
    | logLevel => cases hgiven
    | strictDer => cases hgiven
    | outputFormat => exact hs rfl
  · exact (hconvert _ _ _ _ _ hline).2 machine _ _ hsettings (hasks .joined)
  · exact hnonetold (.argument rfl) rfl

end Format
end CertChain
