import CertChain.Proofs.CommandLine

/-!
# What is given was admitted

A rule says what may be given for its option: nothing, any value, or a value out of a list
(`Kind.Admits`). Values are looked at one by one while a command line is read, so what has been
read in the end holds only what rules admit (`Grammar.honest_of_read`). In particular an option
that takes a value out of a list either is not given at all or has one of these values.

One lemma follows each step of the reading. Rules are those of the grammar (`Grammar.mem_of_role`),
what a word gives has a value just where its rule demands one (`Grammar.fits_spell`), and then it
is either admitted or the end (`Grammar.honest_give`).
-/

namespace CertChain
namespace CommandLine

/-- **What an option of a kind may come with.** -/
inductive Kind.Admits : Kind → Option String → Prop where
  | plain : Admits .plain none
  | valued (value : String) : Admits .valued (some value)
  | choice {values : List String} {value : String} (h : value ∈ values) :
      Admits (.choice values) (some value)

namespace Grammar

variable {σ : Type} {g : Grammar σ}

/-- Some rule admits what is given. -/
def Honours (g : Grammar σ) (entry : σ × Option String) : Prop :=
  ∃ rule ∈ g.rules, rule.option = entry.1 ∧ rule.kind.Admits entry.2

/-- **Everything that is given** is admitted. -/
def Honest (g : Grammar σ) (r : Reading σ) : Prop :=
  ∀ entry ∈ r.given, g.Honours entry

/-! ### The rules of words -/

/-- What is found by its name is a rule of the grammar. -/
theorem mem_of_named? {name : String} {rule : Rule σ} (h : g.named? name = some rule) :
    rule ∈ g.rules :=
  List.mem_of_find?_eq_some h

/-- What is found by a beginning of its name is a rule of the grammar. -/
theorem mem_of_beginning {start : List Char} {entry : String × Rule σ}
    (h : entry ∈ g.beginning start) : entry.2 ∈ g.rules := by
  obtain ⟨rule, hrule, hentry⟩ := List.mem_flatMap.mp h
  obtain ⟨name, -, rfl⟩ := List.mem_map.mp hentry
  exact hrule

/-- The rule of a word is one of the grammar. -/
def Role.In (g : Grammar σ) (role : Role σ) : Prop :=
  ∀ rule isShort attached, role = .option rule isShort attached → rule ∈ g.rules

/-- A word that names nothing has no rule. -/
theorem in_ofOther (word : List Char) : Role.In g (.ofOther word) := by
  intro rule isShort attached h
  unfold Role.ofOther at h
  split at h
  · cases h
  · cases h

/-- An option has the rule that it was found with. -/
theorem in_option {rule : Rule σ} (hrule : rule ∈ g.rules) (isShort : Bool)
    (attached : Option Attached) : Role.In g (.option rule isShort attached) := by
  intro other isShort' attached' h
  cases h
  exact hrule

/-- Whichever way a word names an option, the rule is one of the grammar. -/
theorem mem_of_role {word : String} {role : Role σ} (h : g.role word = .ok role) :
    Role.In g role := by
  unfold Grammar.role at h
  split at h
  · simp only at h
    -- by its whole name, by the name in front of an equals sign, by one letter, or cut short
    split at h
    · rename_i rule hrule
      cases h
      exact in_option (mem_of_named? hrule) _ _
    · split at h
      · rename_i rule hrule
        cases h
        obtain ⟨_, -, hnamed⟩ := Option.bind_eq_some_iff.mp hrule
        exact in_option (mem_of_named? hnamed) _ _
      · split at h
        · split at h
          · rename_i rule hrule
            cases h
            exact in_option (mem_of_named? hrule) _ _
          · cases h
            exact in_ofOther _
        · split at h
          · cases h
            exact in_ofOther _
          · rename_i name rule hbeginning
            cases h
            have hmem := mem_of_beginning (hbeginning ▸ List.mem_cons_self)
            exact in_option hmem _ _
          · cases h
  · cases h
    intro rule isShort attached hoperand
    cases hoperand

/-- All words of a line have their rules from the grammar. -/
theorem in_of_words {line : List String} {ws : List (Word σ)} (h : g.words line = .ok ws) :
    ∀ w ∈ ws, Role.In g w.role := by
  -- one word at a time; the roles of the words behind it do not depend on it
  induction line generalizing ws with
  | nil =>
    cases h
    nofun
  | cons word rest ih =>
    rw [words] at h
    split at h
    · -- behind the separator there are operands only
      cases h
      intro w hw rule isShort attached hrole
      rcases List.mem_cons.mp hw with rfl | hw
      · cases hrole
      · obtain ⟨_, -, rfl⟩ := List.mem_map.mp hw
        cases hrole
    · obtain ⟨role, hrole, hmore⟩ := bind_ok h
      obtain ⟨others, hothers, hpure⟩ := bind_ok hmore
      cases hpure
      intro w hw
      rcases List.mem_cons.mp hw with rfl | hw
      · exact mem_of_role hrole
      · exact ih hothers w hw

/-! ### What a word gives -/

/-- A rule of the grammar, and a value just where the rule demands one. -/
def Fits (g : Grammar σ) (entry : Rule σ × Option String) : Prop :=
  entry.1 ∈ g.rules ∧ entry.2.isSome = entry.1.kind.hasValue

/-- A bare option takes the next word exactly if it demands a value. -/
theorem fits_spellBare {next : Option String} {rule : Rule σ} (hrule : rule ∈ g.rules)
    {spelled : Spelled σ} (h : spellBare next rule = .ok spelled) :
    ∀ entry ∈ spelled.given, g.Fits entry := by
  unfold spellBare at h
  split at h
  · rename_i hvalue
    cases next with
    | none => cases h
    | some value =>
      cases h
      intro entry hentry
      rw [List.mem_singleton.mp hentry]
      exact ⟨hrule, hvalue.symm⟩
  · rename_i hbare
    cases h
    intro entry hentry
    rw [List.mem_singleton.mp hentry]
    exact ⟨hrule, (Bool.not_eq_true _ ▸ hbare).symm⟩

/-- An option with its value attached fits if it demands one. -/
theorem fits_valued {rule : Rule σ} (hrule : rule ∈ g.rules) (hvalue : rule.kind.hasValue = true)
    (value : String) : ∀ entry ∈ [(rule, some value)], g.Fits entry := by
  intro entry hentry
  rw [List.mem_singleton.mp hentry]
  exact ⟨hrule, hvalue.symm⟩

/-- Letters in one word are options of the grammar one by one, and each fits. -/
theorem fits_spellShort {next : Option String} {rule : Rule σ} (hrule : rule ∈ g.rules)
    {equals : Bool} {text : List Char} {spelled : Spelled σ}
    (h : g.spellShort next rule equals text = .ok spelled) :
    ∀ entry ∈ spelled.given, g.Fits entry := by
  have hfirst : ∀ {rule : Rule σ}, rule ∈ g.rules → ¬ rule.kind.hasValue = true →
      g.Fits (rule, none) := fun hrule hbare => ⟨hrule, (Bool.not_eq_true _ ▸ hbare).symm⟩
  -- each letter is an option of its own until one of them takes the rest for its value
  induction rule, equals, text using spellShort.induct g generalizing spelled with
  | case1 rule equals text hvalue =>
    rw [spellShort.eq_def, if_pos hvalue] at h
    cases h
    exact fits_valued hrule hvalue _
  | case2 rule equals hbare =>
    rw [spellShort.eq_def, if_neg hbare] at h
    cases h
  | case3 rule equals hbare letter behind hodd =>
    rw [spellShort.eq_def, if_neg hbare] at h
    simp only [if_pos hodd] at h
    cases h
  | case4 rule equals hbare letter behind hodd hnone =>
    rw [spellShort.eq_def, if_neg hbare] at h
    simp only [if_neg hodd, hnone] at h
    cases h
    intro entry hentry
    rw [List.mem_singleton.mp hentry]
    exact hfirst hrule hbare
  | case5 rule equals hbare letter hodd other hother =>
    rw [spellShort.eq_def, if_neg hbare] at h
    simp only [if_neg hodd, hother] at h
    obtain ⟨more, hmore, hpure⟩ := bind_ok h
    cases hpure
    exact List.forall_mem_cons.mpr
      ⟨hfirst hrule hbare, fits_spellBare (mem_of_named? hother) hmore⟩
  | case6 rule equals hbare letter hodd other hother value ih =>
    rw [spellShort.eq_def, if_neg hbare] at h
    simp only [if_neg hodd, hother] at h
    obtain ⟨more, hmore, hpure⟩ := bind_ok h
    cases hpure
    exact List.forall_mem_cons.mpr ⟨hfirst hrule hbare, ih (mem_of_named? hother) hmore⟩
  | case7 rule equals hbare letter hodd other hother c more hc ih =>
    rw [spellShort.eq_def, if_neg hbare] at h
    simp only [if_neg hodd, hother] at h
    obtain ⟨behind, hbehind, hpure⟩ := bind_ok h
    cases hpure
    exact List.forall_mem_cons.mpr ⟨hfirst hrule hbare, ih (mem_of_named? hother) hbehind⟩

/-- **What a word gives** fits the rules of the grammar. -/
theorem fits_spell {next : Option String} {rule : Rule σ} (hrule : rule ∈ g.rules)
    {isShort : Bool} {attached : Option Attached} {spelled : Spelled σ}
    (h : g.spell next rule isShort attached = .ok spelled) :
    ∀ entry ∈ spelled.given, g.Fits entry := by
  -- a value may stand in the next word, behind a letter, or behind an equals sign
  cases attached with
  | none => exact fits_spellBare hrule h
  | some attached =>
    rw [spell] at h
    split at h
    · exact fits_spellShort hrule h
    · rw [spellLong] at h
      split at h
      · rename_i hvalue
        cases h
        exact fits_valued hrule hvalue _
      · cases h

/-! ### What is read -/

/-- Nothing is given in the beginning. -/
theorem honest_empty : g.Honest .empty := by
  intro entry hentry
  cases hentry

/-- What has been given stays admitted when one more option is. -/
theorem honest_give {r r' : Reading σ} (hr : g.Honest r) {entry : Rule σ × Option String}
    (hfits : g.Fits entry) (h : g.give r entry.1 entry.2 = .ok r') : g.Honest r' := by
  -- the kind of the rule says what to expect, and every kind but a final one takes the value
  obtain ⟨⟨option, names, kind⟩, value⟩ := entry
  obtain ⟨hrule, hvalue⟩ := hfits
  have hmore : kind.Admits value →
      g.Honest { r with given := r.given ++ [(option, value)] } := by
    intro hadmits entry hentry
    rcases List.mem_append.mp hentry with hold | hnew
    · exact hr entry hold
    · rw [List.mem_singleton.mp hnew]
      exact ⟨_, hrule, rfl, hadmits⟩
  unfold give at h
  cases kind with
  | final => cases h
  | plain =>
    cases value with
    | some value => cases hvalue
    | none =>
      cases h
      exact hmore .plain
  | valued =>
    cases value with
    | none => cases hvalue
    | some value =>
      cases h
      exact hmore (.valued value)
  | choice values =>
    cases value with
    | none => cases hvalue
    | some value =>
      simp only at h
      split at h
      · rename_i hmem
        cases h
        exact hmore (.choice (List.contains_iff_mem.mp hmem))
      · cases h

/-- All that a word gives is admitted, since one option after the other is. -/
theorem honest_foldlM {entries : List (Rule σ × Option String)} (hfits : ∀ e ∈ entries, g.Fits e)
    {r r' : Reading σ} (hr : g.Honest r)
    (h : entries.foldlM (fun r (rule, value) => g.give r rule value) r = .ok r') :
    g.Honest r' := by
  induction entries generalizing r with
  | nil =>
    cases h
    exact hr
  | cons entry rest ih =>
    rw [List.foldlM_cons] at h
    obtain ⟨given, hgiven, hmore⟩ := bind_ok h
    obtain ⟨hfirst, hrest⟩ := List.forall_mem_cons.mp hfits
    exact ih hrest (honest_give hr hfirst hgiven) hmore

/-- Words that are left over give nothing. -/
theorem given_foldl_leave (words : List String) (r : Reading σ) :
    (words.foldl Reading.leave r).given = r.given := by
  induction words generalizing r with
  | nil => rfl
  | cons word rest ih => exact ih (r.leave word)

/-- What an option takes keeps to the rules. -/
theorem honest_take {r r' : Reading σ} (hr : g.Honest r) {next : Option (Word σ)} {rule : Rule σ}
    (hrule : rule ∈ g.rules) {isShort usesNext : Bool} {attached : Option Attached}
    (h : g.take r next rule isShort attached = .ok (r', usesNext)) : g.Honest r' := by
  obtain ⟨spelled, hspelled, hmore⟩ := bind_ok h
  obtain ⟨given, hgiven, hpure⟩ := bind_ok hmore
  cases hpure
  -- words that a letter leaves over are left before anything is given
  have hleft : g.Honest (spelled.left.foldl Reading.leave r) := by
    rw [Honest, given_foldl_leave]
    exact hr
  exact honest_foldlM (fits_spell hrule (mapError_ok hspelled)) hleft hgiven

/-- Words behind an option and its value are words behind the option. -/
theorem mem_of_mem_behind {α : Type} {usesNext : Bool} {rest : List α} {a : α}
    (h : a ∈ behind usesNext rest) : a ∈ rest := by
  cases usesNext with
  | false => exact h
  | true => exact List.mem_of_mem_tail h

/-- **A run of the reading** keeps to the rules. -/
theorem honest_scan {ws : List (Word σ)} (hws : ∀ w ∈ ws, Role.In g w.role) {r r' : Reading σ}
    (hr : g.Honest r) (h : g.scan r ws = .ok r') : g.Honest r' := by
  -- only options give something, all other words leave alone what has been given
  induction r, ws using scan.induct g with
  | case1 r =>
    rw [scan] at h
    cases h
    exact hr
  | case2 r text rest ih =>
    rw [scan] at h
    exact ih (List.forall_mem_cons.mp hws).2 hr h
  | case3 r text rule isShort attached rest ih =>
    rw [scan] at h
    obtain ⟨⟨taken, usesNext⟩, htaken, hmore⟩ := bind_ok h
    obtain ⟨hfirst, hrest⟩ := List.forall_mem_cons.mp hws
    exact ih taken usesNext (fun w hw => hrest w (mem_of_mem_behind hw))
      (honest_take hr (hfirst rule isShort attached rfl) htaken) hmore
  | case4 r text bar rest hopen ih =>
    rw [scan, if_pos hopen] at h
    exact ih (List.forall_mem_cons.mp (List.forall_mem_cons.mp hws).2).2 hr h
  | case5 r text bar rest hfull ih =>
    rw [scan, if_neg hfull] at h
    exact ih (List.forall_mem_cons.mp (List.forall_mem_cons.mp hws).2).2 hr h
  | case6 r text rest hbar hopen ih =>
    rw [scan, if_pos hopen] at h
    · exact ih (List.forall_mem_cons.mp hws).2 hr h
    · exact hbar
  | case7 r text rest hbar hfull ih =>
    rw [scan, if_neg hfull] at h
    · exact ih (List.forall_mem_cons.mp hws).2 hr h
    · exact hbar
  | case8 r bar text rest hopen ih =>
    rw [scan, if_pos hopen] at h
    exact ih (List.forall_mem_cons.mp (List.forall_mem_cons.mp hws).2).2 hr h
  | case9 r bar text rest hfull ih =>
    rw [scan, if_neg hfull] at h
    exact ih (List.forall_mem_cons.mp (List.forall_mem_cons.mp hws).2).2 hr h
  | case10 r bar rest hoperand ih =>
    rw [scan] at h
    · exact ih (List.forall_mem_cons.mp hws).2 hr h
    · exact hoperand

/-- A line that is read has words, a run of the scanner over them, and no place left open. -/
theorem read_ok {line : List String} {r : Reading σ} (h : g.read line = .ok r) :
    ∃ ws, g.words line = .ok ws ∧ g.scan .empty ws = .ok r ∧ g.isOpen r = false := by
  obtain ⟨ws, hws, hmore⟩ := bind_ok h
  obtain ⟨s, hs, hlast⟩ := bind_ok hmore
  split at hlast
  · cases hlast
  · rename_i hfull
    cases hlast
    exact ⟨ws, mapError_ok hws, hs, Bool.not_eq_true _ ▸ hfull⟩

/-- **Command lines that are read** give what their grammar admits. -/
theorem honest_of_read {line : List String} {r : Reading σ} (h : g.read line = .ok r) :
    g.Honest r := by
  obtain ⟨ws, hws, hscan, -⟩ := read_ok h
  exact honest_scan (in_of_words hws) honest_empty hscan

/-- An option that takes a value out of a list has such a value if it is given. -/
theorem value?_of_choice [DecidableEq σ] {r : Reading σ} (hr : g.Honest r) {option : σ}
    {values : List String}
    (hrules : ∀ rule ∈ g.rules, rule.option = option → rule.kind = .choice values)
    (hhas : r.has option = true) : ∃ value ∈ values, r.value? option = some value := by
  obtain ⟨entry, hentry⟩ := Option.isSome_iff_exists.mp (Reading.has_iff.mp hhas)
  have hmem : entry ∈ r.given := List.mem_reverse.mp (List.mem_of_find?_eq_some hentry)
  have hname : entry.1 = option := by simpa using List.find?_some hentry
  obtain ⟨rule, hrule, hoption, hadmits⟩ := hr entry hmem
  -- the rule that admits it is of that kind, so the value is one of the list
  rw [hrules rule hrule (hoption.trans hname)] at hadmits
  generalize hvalue : entry.2 = value at hadmits
  cases hadmits with
  | choice h => exact ⟨_, h, by rw [Reading.value?, hentry, Option.bind_some, hvalue]⟩

end Grammar
end CommandLine
end CertChain
