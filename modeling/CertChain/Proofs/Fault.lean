import CertChain.Proofs.Fault.Kind
import CertChain.Proofs.Fault.Passage
import CertChain.Proofs.Value.Text

/-!
# What is told of one fault

In a trace a fault stands with its kind, its text and its notes (`Fault.Head.plainEntry`), and one
would like the text to be the one that stands in the short form of a failure. For most faults it
is, and where the short form has no text there are words that say so. Faults in the form of a text
are told otherwise. They show the place that they point to in lines of their own and leave it out
of their words, and they find words where there are none. `Fault.Head.IsPlain` says when they do
neither, and `Fault.Head.entry_eq_plainEntry_iff` that there is no other difference.

Such a fault may also be impossible to tell, because there is something else in the place of its
message or of a part of its passage than what is to be shown (`Fault.Head.Displayable`). Any other
fault can be told, whatever its arguments are (`Fault.Head.displayable_of_ne_malformed`).
-/

namespace CertChain
namespace Fault

/-! ### Beginnings of texts -/

/-- A text that is there decides how the whole begins. -/
theorem firstChar_append {s : String} (h : s ≠ "") (t : String) :
    firstChar (s ++ t) = firstChar s := by
  cases hchars : s.toList with
  | nil => exact absurd (String.toList_eq_nil_iff.mp hchars) h
  | cons c rest =>
    unfold firstChar
    rw [String.toList_append, hchars]
    rfl

/-- Two indented texts make an indented text, also if one of them is empty. -/
theorem firstChar_append_blank {s t : String} (hs : firstChar s = ' ') (ht : firstChar t = ' ') :
    firstChar (s ++ t) = ' ' := by
  by_cases h : s = ""
  · rw [h, String.empty_append, ht]
  · rw [firstChar_append h, hs]

/-- The heading of a passage is indented, if there is one. -/
theorem firstChar_heading {p : Passage} {s : String} (h : p.heading = .ok s) :
    firstChar s = ' ' := by
  unfold Passage.heading at h
  split at h
  · obtain ⟨file, -, h⟩ := bind_ok h
    obtain ⟨line, -, h⟩ := bind_ok h
    cases h
    simp only [String.append_assoc]
    exact firstChar_append (by decide) _
  · cases h
    rfl

/-- The text of a passage is shown indented, if there is one. -/
theorem firstChar_excerpt {p : Passage} {s : String} (h : p.excerpt = .ok s) :
    firstChar s = ' ' := by
  unfold Passage.excerpt at h
  split at h
  · cases h
    rfl
  · obtain ⟨marks, -, h⟩ := bind_ok h
    cases h
    simp only [String.append_assoc]
    exact firstChar_append (by decide) _
  · cases h

/-- The lines of a passage are indented, if there are any. -/
theorem firstChar_lines {p : Passage} {s : String} (h : p.lines = .ok s) : firstChar s = ' ' := by
  obtain ⟨heading, hheading, h⟩ := bind_ok h
  obtain ⟨excerpt, hexcerpt, h⟩ := bind_ok h
  cases h
  exact firstChar_append_blank (firstChar_heading hheading) (firstChar_excerpt hexcerpt)

/-- What tells a passage in one line begins with a blank, if there is anything to tell. -/
theorem firstChar_suffix (p : Passage) : firstChar p.suffix = ' ' := by
  have hopen : ∀ t, firstChar (" (" ++ t) = ' ' := firstChar_append (by decide)
  have hline : ∀ t, firstChar (" (line " ++ t) = ' ' := firstChar_append (by decide)
  rw [Passage.suffix]
  split
  · simp only [String.append_assoc]
    exact hopen _
  · rw [String.append_assoc]
    exact hopen _
  · rw [String.append_assoc]
    exact hline _
  · rfl

/-- What is taken for nothing is written in few ways, and none begins with a bracket of this
kind. -/
theorem firstChar_plain_ne {d : Datum} {s t : String} (h : d.isEmpty = true)
    (hs : d.plain? = some s) (ht : firstChar t = ' ') : firstChar (s ++ t) ≠ '<' := by
  -- what is taken for nothing is one value of each type, and all but the empty text have words of
  -- their own that decide the first character
  cases d with
  | null =>
    cases hs
    rw [firstChar_append (by decide)]
    decide
  | bool b =>
    cases b with
    | false =>
      cases hs
      rw [firstChar_append (by decide)]
      decide
    | true => cases h
  | int n =>
    have hzero : n = 0 := eq_of_beq h
    rw [hzero] at hs
    cases hs
    rw [firstChar_append (by decide)]
    decide
  | text word =>
    cases hs
    rw [String.isEmpty_iff.mp h, String.empty_append, ht]
    decide
  | list items =>
    cases items with
    | nil =>
      cases hs
      rw [firstChar_append (by decide)]
      decide
    | cons d rest => cases h

/-- What is not taken for nothing has words. -/
theorem plain_ne_empty {d : Datum} {s : String} (h : d.isEmpty = false) (hs : d.plain? = some s) :
    s ≠ "" := by
  rintro rfl
  cases d with
  | null => cases h
  | bool b => cases b <;> exact absurd (Option.some.inj hs) (by decide)
  -- zero is the only number that is taken for nothing, but here any number will do, since none has
  -- an empty numeral
  | int n =>
    have hs' : numeral? n = some "" := hs
    unfold numeral? at hs'
    split at hs'
    · have hnil : (toString n).toList = [] := by rw [Option.some.inj hs']; rfl
      exact Value.toString_ne_nil n hnil
    · cases hs'
  | text word =>
    cases hs
    cases h
  | list items =>
    obtain ⟨texts, -, hs⟩ := Option.bind_eq_some_iff.mp hs
    have hopen : firstChar ("[" ++ ", ".intercalate texts ++ "]") = '[' := by
      rw [String.append_assoc]
      exact firstChar_append (by decide) _
    rw [show "[" ++ ", ".intercalate texts ++ "]" = "" from Option.some.inj hs] at hopen
    exact absurd hopen (by decide)

namespace Head

variable {h : Head}

/-! ### Faults that can be told -/

/-- **A fault that can be told.** One in the form of a text has a message that can be written, and
the passage that it points to can be shown. -/
structure Displayable (h : Head) : Prop where
  message : ∀ name, h.kind.root = .malformed name → (h.args.headD .null).Writable
  passage : ∀ p, h.passage? = some p → p.Showable

/-- Only faults in the form of a text point to passages. -/
theorem passage?_of_ne_malformed (hkind : ∀ name, h.kind.root ≠ .malformed name) :
    h.passage? = none := by
  unfold passage?
  split
  · rename_i hmalformed _
    exact absurd hmalformed (hkind _)
  · rfl

/-- **Other faults can be told**, whatever their arguments are. -/
theorem displayable_of_ne_malformed (hkind : ∀ name, h.kind.root ≠ .malformed name) :
    h.Displayable where
  message name hname := absurd hname (hkind name)
  passage p hp := by
    rw [passage?_of_ne_malformed hkind] at hp
    cases hp

/-- The words of a fault in the form of a text. -/
theorem words_malformed {name : String} (hkind : h.kind.root = .malformed name) :
    h.words = if (h.args.headD .null).isEmpty then .ok ": <no detail available>"
      else do return ": " ++ (← written (h.args.headD .null).plain?) := by
  unfold words
  rw [hkind]

/-- The words of a fault are found unless the message of one in the form of a text cannot be
written. -/
theorem words_ok_iff :
    (∃ s, h.words = .ok s) ↔ ∀ name, h.kind.root = .malformed name →
      (h.args.headD .null).Writable := by
  by_cases hkind : ∃ name, h.kind.root = .malformed name
  · obtain ⟨name, hname⟩ := hkind
    rw [words_malformed hname]
    by_cases hempty : (h.args.headD .null).isEmpty = true
    · rw [if_pos hempty]
      exact ⟨fun _ _ _ => Datum.writable_of_isEmpty hempty, fun _ => ⟨_, rfl⟩⟩
    · rw [if_neg hempty]
      constructor
      · rintro ⟨s, hs⟩ - -
        -- only a message that is not taken for nothing is written at all
        obtain ⟨message, hmessage, -⟩ := bind_ok hs
        exact exists_written_iff.mp ⟨message, hmessage⟩
      · intro hall
        obtain ⟨message, hmessage⟩ := exists_written_iff.mpr (hall name hname)
        rw [hmessage]
        exact ⟨_, rfl⟩
  · refine ⟨fun _ name hname => absurd ⟨name, hname⟩ hkind, fun _ => ?_⟩
    unfold words
    split
    · rename_i name hname
      exact absurd ⟨name, hname⟩ hkind
    · split
      · exact ⟨_, rfl⟩
      · exact ⟨_, rfl⟩

/-- What holds of a text without characters holds of what is told of a passage, unless there is a
passage of which it is not so. -/
theorem ofPassage_iff {P : Except Fault String → Prop} (hnone : P (.ok ""))
    {part : Passage → Except Fault String} :
    P (h.ofPassage part) ↔ ∀ p, h.passage? = some p → P (part p) := by
  unfold ofPassage
  cases h.passage? with
  | none => exact ⟨fun _ p hp => (nomatch hp), fun _ => hnone⟩
  | some p =>
    constructor
    · rintro hpart p' hp
      cases hp
      exact hpart
    · exact fun hall => hall p rfl

/-- What is told of a passage goes wrong only where there is a passage. -/
theorem ofPassage_ok_iff {part : Passage → Except Fault String} :
    (∃ s, h.ofPassage part = .ok s) ↔ ∀ p, h.passage? = some p → ∃ s, part p = .ok s :=
  ofPassage_iff (P := fun told => ∃ s, told = .ok s) ⟨"", rfl⟩

/-- Nothing is told of a passage if there is none, or if there is nothing to tell of it. -/
theorem ofPassage_eq_empty_iff {part : Passage → Except Fault String} :
    h.ofPassage part = .ok "" ↔ ∀ p, h.passage? = some p → part p = .ok "" :=
  ofPassage_iff (P := fun told => told = .ok "") rfl

/-- The check that is made first is that of the passage. -/
theorem take_ok_iff : h.take = .ok () ↔ ∀ p, h.passage? = some p → p.take = .ok () := by
  unfold take
  cases h.passage? with
  | none => exact ⟨fun _ p hp => (nomatch hp), fun _ => rfl⟩
  | some p =>
    constructor
    · rintro hp p' hp'
      cases hp'
      exact hp
    · exact fun hall => hall p rfl

/-- An entry is put together from what comes in front of the name, the words and what follows
them. -/
theorem entry_ok_iff {e : String} :
    h.entry = .ok e ↔ ∃ lines words suffix, h.ofPassage Passage.lines = .ok lines
      ∧ h.words = .ok words ∧ h.ofPassage Passage.headlessSuffix = .ok suffix
      ∧ e = lines ++ h.kind.traceName ++ (words ++ suffix) ++ "\n" ++ h.noteLines := by
  constructor
  · intro he
    obtain ⟨suffix, hsuffix, he⟩ := bind_ok he
    obtain ⟨lines, hlines, he⟩ := bind_ok he
    obtain ⟨words, hwords, he⟩ := bind_ok he
    cases he
    exact ⟨lines, words, suffix, hlines, hwords, hsuffix, by simp only [String.append_assoc]⟩
  · rintro ⟨lines, words, suffix, hlines, hwords, hsuffix, rfl⟩
    rw [entry, hsuffix, hlines, hwords]
    show Except.ok (lines ++ h.kind.traceName ++ words ++ suffix ++ "\n" ++ h.noteLines) = _
    simp only [String.append_assoc]

/-- **Exactly the displayable faults are told**: they pass the check that is made before, and there
is an entry. -/
theorem displayable_iff : h.Displayable ↔ h.take = .ok () ∧ ∃ e, h.entry = .ok e := by
  have hentry : (∃ e, h.entry = .ok e) ↔ (∃ s, h.ofPassage Passage.lines = .ok s)
      ∧ (∃ s, h.words = .ok s) ∧ ∃ s, h.ofPassage Passage.headlessSuffix = .ok s := by
    constructor
    · rintro ⟨e, he⟩
      obtain ⟨lines, words, suffix, hlines, hwords, hsuffix, -⟩ := entry_ok_iff.mp he
      exact ⟨⟨lines, hlines⟩, ⟨words, hwords⟩, suffix, hsuffix⟩
    · rintro ⟨⟨lines, hlines⟩, ⟨words, hwords⟩, suffix, hsuffix⟩
      exact ⟨_, entry_ok_iff.mpr ⟨lines, words, suffix, hlines, hwords, hsuffix, rfl⟩⟩
  -- passages are checked once and told twice, and `Passage.showable_iff` puts the three together
  rw [hentry, take_ok_iff, words_ok_iff, ofPassage_ok_iff, ofPassage_ok_iff]
  constructor
  · intro hdisplayable
    have hshown := fun p hp => Passage.showable_iff.mp (hdisplayable.passage p hp)
    exact ⟨fun p hp => (hshown p hp).1, fun p hp => (hshown p hp).2.2, hdisplayable.message,
      fun p hp => (hshown p hp).2.1⟩
  · rintro ⟨htake, hlines, hmessage, hsuffix⟩
    exact ⟨hmessage, fun p hp => Passage.showable_iff.mpr ⟨htake p hp, hsuffix p hp, hlines p hp⟩⟩

/-! ### Plain entries -/

/-- The text of a fault as it stands behind a name: not at all if it is empty, and if there is none
with words that say so. -/
def plainWords (h : Head) : String :=
  match h.text with
  | .ok text => if text.isEmpty then "" else ": " ++ text
  | .error _ => ": " ++ textless

/-- **The plain entry**: the kind, the text if there is any, and the notes. -/
def plainEntry (h : Head) : String :=
  h.kind.traceName ++ h.plainWords ++ "\n" ++ h.noteLines

/-- **What a fault in the form of a text says is its text.** If the words are those of such faults,
there is a message, and the passage that it points to is told alike in either place. A fault with
words of its own has to have them there as well. -/
def SaysText (h : Head) : Prop :=
  match h.kind.wording with
  | .inherited =>
    (h.args.headD .null).isEmpty = false ∧ (h.args.headD .null).Writable
      ∧ ∀ p, h.passage? = some p → p.headlessSuffix = .ok p.suffix
  | _ => ∃ words suffix, h.words = .ok words ∧ h.ofPassage Passage.headlessSuffix = .ok suffix
      ∧ words ++ suffix = h.plainWords

/-- **A fault that is told plainly.** One in the form of a text is, if it shows no lines of its own
and what it says is its text. -/
def IsPlain (h : Head) : Prop :=
  ∀ name, h.kind.root = .malformed name →
    (∀ p, h.passage? = some p → p.lines = .ok "") ∧ h.SaysText

/-- Faults of other kinds are told plainly. -/
theorem entry_of_ne_malformed (hkind : ∀ name, h.kind.root ≠ .malformed name) :
    h.entry = .ok h.plainEntry := by
  have hnone : ∀ part, h.ofPassage part = .ok "" := by
    intro part
    unfold ofPassage
    rw [passage?_of_ne_malformed hkind]
  have hwords : h.words = .ok h.plainWords := by
    unfold words plainWords
    split
    · rename_i name hmalformed
      exact absurd hmalformed (hkind name)
    · cases h.text with
      | ok text => rfl
      | error fault => rfl
  refine entry_ok_iff.mpr ⟨"", h.plainWords, "", hnone _, hwords, hnone _, ?_⟩
  rw [plainEntry, String.empty_append, String.append_empty]

/-- In front of a name nothing can be put that begins with a blank. -/
theorem indent_iff {lines name words text : String} (hlines : firstChar lines = ' ')
    (hname : firstChar name ≠ ' ') :
    lines ++ name ++ words = name ++ text ↔ lines = "" ∧ words = text := by
  have hnonempty : name ≠ "" := by
    rintro rfl
    exact hname rfl
  constructor
  · intro h
    have hnone : lines = "" := by
      -- if there were lines, the left side would begin with a blank and the right one with the name
      by_contra hsome
      have hfirst := congrArg firstChar h
      rw [String.append_assoc, firstChar_append hsome, firstChar_append hnonempty, hlines] at hfirst
      exact hname hfirst.symm
    rw [hnone, String.empty_append, String.append_right_inj] at h
    exact ⟨hnone, h⟩
  · rintro ⟨rfl, rfl⟩
    rw [String.empty_append]

/-- What begins with a blank for every passage does so for a fault with or without one. -/
theorem firstChar_ofPassage {part : Passage → Except Fault String} {s : String}
    (hpart : ∀ p s, part p = .ok s → firstChar s = ' ') (hs : h.ofPassage part = .ok s) :
    firstChar s = ' ' := by
  unfold ofPassage at hs
  split at hs
  · cases hs
    rfl
  · exact hpart _ _ hs

/-- **An entry is plain if there is nothing in front of the name, and the text behind it.** -/
theorem entry_iff (hname : firstChar h.kind.traceName ≠ ' ') :
    h.entry = .ok h.plainEntry ↔ h.ofPassage Passage.lines = .ok ""
      ∧ ∃ words suffix, h.words = .ok words ∧ h.ofPassage Passage.headlessSuffix = .ok suffix
        ∧ words ++ suffix = h.plainWords := by
  rw [entry_ok_iff]
  constructor
  · rintro ⟨lines, words, suffix, hlines, hwords, hsuffix, hplain⟩
    rw [plainEntry, String.append_left_inj, String.append_left_inj] at hplain
    -- what is told of a passage is indented, and the name of the kind is not
    obtain ⟨rfl, hsaid⟩ := (indent_iff (firstChar_ofPassage (fun _ _ => firstChar_lines) hlines)
      hname).mp hplain.symm
    exact ⟨hlines, words, suffix, hwords, hsuffix, hsaid⟩
  · rintro ⟨hlines, words, suffix, hwords, hsuffix, hsaid⟩
    refine ⟨"", words, suffix, hlines, hwords, hsuffix, ?_⟩
    rw [plainEntry, hsaid, String.empty_append]

/-- A message that is there, with what follows it, is the text behind a name exactly if the text
ends alike. -/
theorem message_iff {d : Datum} {s suffix other : String} (hempty : d.isEmpty = false)
    (hs : d.plain? = some s) :
    ": " ++ s ++ other = (if (s ++ suffix).isEmpty then "" else ": " ++ (s ++ suffix))
      ↔ other = suffix := by
  have htext : ¬ (s ++ suffix).isEmpty = true := by
    rw [String.isEmpty_iff, String.append_eq_empty_iff]
    exact fun hnone => plain_ne_empty hempty hs hnone.1
  rw [if_neg htext, String.append_assoc, String.append_right_inj, String.append_right_inj]

/-- The words that are found where there is no message are not the text. -/
theorem noMessage_ne {d : Datum} {s suffix other : String} (hempty : d.isEmpty = true)
    (hs : d.plain? = some s) (hsuffix : firstChar suffix = ' ') :
    ": <no detail available>" ++ other
      ≠ if (s ++ suffix).isEmpty then "" else ": " ++ (s ++ suffix) := by
  by_cases htext : (s ++ suffix).isEmpty = true
  · rw [if_pos htext]
    intro h
    have hfirst := congrArg firstChar h
    rw [firstChar_append (by decide)] at hfirst
    exact absurd hfirst (by decide)
  · rw [if_neg htext]
    intro h
    -- behind the colon one begins with an angle bracket and the other with something else
    have hsplit : ": <no detail available>" ++ other
        = ": " ++ ("<no detail available>" ++ other) := by
      rw [← String.append_assoc]
      rfl
    rw [hsplit, String.append_right_inj] at h
    have hfirst := congrArg firstChar h
    rw [firstChar_append (by decide)] at hfirst
    exact firstChar_plain_ne hempty hs hsuffix hfirst.symm

/-- The text of a fault in the form of a text, as it stands behind a name. -/
theorem plainWords_malformed {name s : String} (hkind : h.kind.root = .malformed name)
    (hwording : h.kind.wording = .inherited) (hs : (h.args.headD .null).plain? = some s) :
    h.plainWords = if (s ++ (h.passage?.map Passage.suffix).getD "").isEmpty then ""
      else ": " ++ (s ++ (h.passage?.map Passage.suffix).getD "") := by
  have htext : h.text = .ok (s ++ (h.passage?.map Passage.suffix).getD "") := by
    unfold text saying
    rw [hwording, hkind]
    dsimp only
    rw [hs]
    rfl
  rw [plainWords, htext]

/-- **What is said is the text** under the conditions of `SaysText`. -/
theorem saysText_iff {name : String} (hkind : h.kind.root = .malformed name) :
    (∃ words suffix, h.words = .ok words ∧ h.ofPassage Passage.headlessSuffix = .ok suffix
      ∧ words ++ suffix = h.plainWords) ↔ h.SaysText := by
  unfold SaysText
  split
  case h_2 => exact Iff.rfl
  case h_1 hwording =>
    rw [words_malformed hkind]
    constructor
    · rintro ⟨words, suffix, hwords, hsuffix, hsaid⟩
      cases hempty : (h.args.headD .null).isEmpty with
      | true =>
        -- the words that are found for a missing message are never those of the text
        obtain ⟨s, hs⟩ := Datum.exists_plain?_iff.mpr (Datum.writable_of_isEmpty hempty)
        rw [hempty] at hwords
        cases hwords
        rw [plainWords_malformed hkind hwording hs] at hsaid
        refine absurd hsaid (noMessage_ne hempty hs ?_)
        cases h.passage? with
        | none => rfl
        | some p => exact firstChar_suffix p
      | false =>
        -- both begin with the message, so what is left to compare is what follows it
        rw [hempty] at hwords
        obtain ⟨s, hs, hwords⟩ := bind_ok hwords
        have hs := written_ok_iff.mp hs
        cases hwords
        rw [plainWords_malformed hkind hwording hs, message_iff hempty hs] at hsaid
        refine ⟨rfl, Datum.exists_plain?_iff.mp ⟨s, hs⟩, fun p hp => ?_⟩
        rw [ofPassage, hp] at hsuffix
        rw [hp] at hsaid
        have hgiven : p.headlessSuffix = .ok suffix := hsuffix
        rw [hgiven, hsaid]
        rfl
    · rintro ⟨hempty, hwritable, hplace⟩
      obtain ⟨s, hs⟩ := Datum.exists_plain?_iff.mpr hwritable
      have hsuffix : h.ofPassage Passage.headlessSuffix
          = .ok ((h.passage?.map Passage.suffix).getD "") := by
        unfold ofPassage
        cases hp : h.passage? with
        | none => rfl
        | some p => exact hplace p hp
      refine ⟨": " ++ s, _, ?_, hsuffix, ?_⟩
      · rw [hempty, hs]
        rfl
      · rw [plainWords_malformed hkind hwording hs, message_iff hempty hs]

/-- **Exactly the plain ones are told plainly.** -/
theorem entry_eq_plainEntry_iff (hknown : h.kind.Known) :
    h.entry = .ok h.plainEntry ↔ h.IsPlain := by
  by_cases hkind : ∃ name, h.kind.root = .malformed name
  · obtain ⟨name, hname⟩ := hkind
    rw [entry_iff hknown.firstChar_traceName, saysText_iff hname]
    rw [ofPassage_eq_empty_iff]
    exact ⟨fun hplain _ _ => hplain, fun hplain => hplain name hname⟩
  · have hother : ∀ name, h.kind.root ≠ .malformed name := fun name hname => hkind ⟨name, hname⟩
    exact ⟨fun _ name hname => absurd hname (hother name), fun _ => entry_of_ne_malformed hother⟩

end Head

end Fault
end CertChain
